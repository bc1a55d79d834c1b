import Docent.Grammar.Page.Lexical
import Docent.Proofs.Scan.Gaps
import Docent.Proofs.Steady

/-!
# Gaps of pages before other texts

A gap of a page is cut off leaf by leaf. What comes after a leaf decides where it ends only by a few
characters, so that a gap is cut off in the same way before any text that begins alike.
-/

namespace Docent.Page

open Scan
open Docent.Shape (append_apply orElse_apply)

instance bounded_lineComment : Shape.Bounded lineComment := by
  unfold lineComment; dsimp only; infer_instance

instance bounded_comment : Shape.Bounded comment := by
  unfold comment; dsimp only; infer_instance

instance bounded_wordShape : Shape.Bounded wordShape := by
  unfold wordShape wordPart; infer_instance

/-! ### Texts that begin alike -/

/-- The word or mark with which the tag can go on that begins code. -/
def tagWord : Shape :=
  (.one (fun c => c = 'p' || c = 'P') ++ .one (fun c => c = 'h' || c = 'H') ++
    .one fun c => c = 'p' || c = 'P') <|> .char '='

/-- Two texts that a gap can end with in the same way: they begin with the same character, after a
question mark the code ends in both, and a tag goes on with neither or in the same way. -/
structure Alike (cs cs' : List Char) : Prop where
  head : ∃ c r r', cs = c :: r ∧ cs' = c :: r' ∧
    (c = '?' → r.head? = some '>' ∧ r'.head? = some '>')
  tag : tagWord cs = tagWord cs'

theorem openTag_cons (cs : List Char) :
    openTag ('<' :: '?' :: cs) = some (2 + (tagWord cs).getD 0) := by
  have hlength : "<?".length = 2 := rfl
  simp [openTag, append_apply, Shape.exactly, Shape.opt, tagWord, hlength]

theorem eq_of_openTag {cs : List Char} {n : Nat} (h : openTag cs = some n) :
    ∃ r, cs = '<' :: '?' :: r ∧ n = 2 + (tagWord r).getD 0 := by
  obtain ⟨r, m, rfl, -⟩ := Shape.eq_of_exactly_append h
  exact ⟨r, rfl, Option.some.inj (h.symm.trans (openTag_cons r))⟩

theorem tagWord_of_ne {c : Char} (hp : c ≠ 'p') (hP : c ≠ 'P') (heq : c ≠ '=') (cs : List Char) :
    tagWord (c :: cs) = none := by
  simp [tagWord, orElse_apply, append_apply, Shape.char, Shape.one, hp, hP, heq]

instance steady_tagWord : Shape.Steady tagWord := by
  refine Shape.steady_orElse (fun cs h => ?_) fun c cs cs' _ h => ?_
  · exact Shape.one_ne_zero cs h
  · rw [Shape.char, Shape.one] at h
    split at h
    · rename_i hc
      rw [of_decide_eq_true hc]
      rfl
    · exact absurd rfl h

/-- Texts with the same first character are alike if no gap depends on what comes after it. -/
theorem alike_cons {c : Char} (hc : c ≠ '?') (hp : c ≠ 'p') (hP : c ≠ 'P') (heq : c ≠ '=')
    (r r' : List Char) : Alike (c :: r) (c :: r') :=
  ⟨⟨c, r, r', rfl, rfl, fun h => absurd h hc⟩, by
    rw [tagWord_of_ne hp hP heq, tagWord_of_ne hp hP heq]⟩

/-! ### Comments -/

/-- One character of a comment that ends with the line, or a question mark with the character after
it. -/
def lineUnit : Shape :=
  .one (fun c => !(c = '?' || (c = '\n' || c = '\r'))) <|>
    (.char '?' ++ .one fun c => !(c = '>' || (c = '\n' || c = '\r')))

/-- A question mark with the end of the line after it. -/
def lineMark : Shape := .char '?' ++ .opt (.char '\r') ++ .char '\n'

theorem lineComment_eq : lineComment = .many lineUnit ++ .opt lineMark := rfl

theorem comment_slashes (cs : List Char) :
    comment ('/' :: '/' :: cs) = (lineComment cs).map (2 + ·) := by
  have hlength : "//".length = 2 := rfl
  simp [hlength, comment, orElse_apply, append_apply, Shape.exactly, Shape.char, Shape.one]

theorem comment_block (cs : List Char) :
    comment ('/' :: '*' :: cs) = (Shape.through "*/" cs).map (2 + ·) := by
  have hlength : "/*".length = 2 := rfl
  simp [hlength, comment, orElse_apply, append_apply, Shape.exactly, Shape.char, Shape.one]

theorem comment_slash {c : Char} (h : c ≠ '/') (h' : c ≠ '*') (cs : List Char) :
    comment ('/' :: c :: cs) = none := by
  simp [comment, orElse_apply, append_apply, Shape.exactly, Shape.char, Shape.one, h.symm, h'.symm]

theorem comment_of_ne {c : Char} (h : c ≠ '/') (h' : c ≠ '#') (cs : List Char) :
    comment (c :: cs) = none := by
  simp [comment, orElse_apply, append_apply, Shape.exactly, Shape.char, Shape.one, h', h.symm]

theorem lineComment_isSome (cs : List Char) : (lineComment cs).isSome = true := by
  rw [lineComment_eq, append_apply]
  rfl

theorem comment_hash (c : Char) (cs : List Char) : comment ('#' :: c :: cs) =
    if c = '[' then none
    else if c = '?' ∨ c = '\r' ∨ c = '\n' then some 1
    else (lineComment cs).map (2 + ·) := by
  obtain ⟨n, hn⟩ := Option.isSome_iff_exists.1 (lineComment_isSome cs)
  by_cases hopen : c = '['
  · simp [comment, orElse_apply, append_apply, Shape.exactly, Shape.char, Shape.one, Shape.absent,
      hopen]
  · by_cases hend : c = '?' ∨ c = '\r' ∨ c = '\n'
    · rw [if_neg hopen, if_pos hend]
      rcases hend with rfl | rfl | rfl <;>
        simp [comment, orElse_apply, append_apply, Shape.exactly, Shape.char, Shape.one, Shape.absent]
    · rw [if_neg hopen, if_neg hend, hn]
      simp only [not_or] at hend
      simp [comment, orElse_apply, append_apply, Shape.exactly, Shape.char, Shape.one, hopen, hend, hn]

/-! #### Comments that end with the line -/

theorem lineUnit_cons {c : Char} (h : c ≠ '?') (cs : List Char) :
    lineUnit (c :: cs) = if c = '\n' ∨ c = '\r' then none else some 1 := by
  by_cases hend : c = '\n' ∨ c = '\r'
  · rw [if_pos hend]
    rcases hend with rfl | rfl <;> rfl
  · rw [if_neg hend]
    rw [not_or] at hend
    simp [lineUnit, orElse_apply, Shape.one, h, hend]

theorem lineUnit_question (c : Char) (cs : List Char) : lineUnit ('?' :: c :: cs) =
    if c = '>' ∨ c = '\n' ∨ c = '\r' then none else some 2 := by
  by_cases hend : c = '>' ∨ c = '\n' ∨ c = '\r'
  · rw [if_pos hend]
    rcases hend with rfl | rfl | rfl <;> rfl
  · rw [if_neg hend]
    simp only [not_or] at hend
    simp [lineUnit, orElse_apply, append_apply, Shape.char, Shape.one, hend]

theorem lineUnit_ne_zero (cs : List Char) : lineUnit cs ≠ some 0 := by
  match cs with
  | [] => nofun
  | ['?'] => nofun
  | '?' :: c :: cs =>
    rw [lineUnit_question]
    split <;> simp
  | c :: cs =>
    by_cases hc : c = '?'
    · subst hc
      cases cs with
      | nil => nofun
      | cons c cs =>
        rw [lineUnit_question]
        split <;> simp
    · rw [lineUnit_cons hc]
      split <;> simp

instance bounded_lineUnit : Shape.Bounded lineUnit := by unfold lineUnit; infer_instance

instance steady_lineUnit : Shape.Steady lineUnit := by
  refine Shape.steady_orElse (fun cs h => ?_) fun c cs cs' h _ => ?_
  · rw [append_apply] at h
    obtain ⟨n, -, hn⟩ := Option.bind_eq_some_iff.1 h
    obtain ⟨m, hm, hsum⟩ := Option.map_eq_some_iff.1 hn
    obtain rfl : m = 0 := by omega
    exact Shape.one_ne_zero _ hm
  · rw [Shape.one] at h ⊢
    exact h

theorem eq_cons_cons_of_append {c d : Char} {x y r : List Char} {n : Nat}
    (h : x ++ y = c :: d :: r) (hx : x.length = 2 + n) :
    ∃ v, x = c :: d :: v ∧ v ++ y = r ∧ v.length = n := by
  match x, hx with
  | [], hx => exact absurd hx (by rw [List.length_nil]; omega)
  | [a], hx => exact absurd hx (by rw [List.length_singleton]; omega)
  | a :: b :: v, hx =>
    obtain ⟨rfl, htail⟩ := List.cons.inj h
    obtain ⟨rfl, hrest⟩ := List.cons.inj htail
    exact ⟨v, rfl, hrest, by simp only [List.length_cons] at hx; omega⟩

theorem eq_of_lineMark {v y : List Char} (h : lineMark (v ++ y) = some v.length) :
    v = ['?', '\n'] ∨ v = ['?', '\r', '\n'] := by
  rw [lineMark, Shape.append_assoc] at h
  obtain ⟨c, r, m, hv, hc, hm, hlength⟩ := Shape.eq_of_one_append h
  obtain rfl : c = '?' := of_decide_eq_true hc
  rw [append_apply] at hm
  obtain ⟨k, hk, hrest⟩ := Option.bind_eq_some_iff.1 hm
  obtain ⟨l, hl, rfl⟩ := Option.map_eq_some_iff.1 hrest
  obtain ⟨d, s, hdrop, hd, rfl⟩ := Shape.eq_of_one hl
  obtain rfl : d = '\n' := of_decide_eq_true hd
  have hreturn : (Shape.char '\r' r).getD 0 = k := Option.some.inj hk
  -- with or without a carriage return
  cases hchar : Shape.char '\r' r with
  | none =>
    rw [hchar, Option.getD_none] at hreturn
    subst hreturn
    obtain rfl : r = '\n' :: s := hdrop
    obtain ⟨w, rfl, -, hw⟩ := eq_cons_cons_of_append (n := 0) hv hlength
    rw [List.length_eq_zero_iff.1 hw]
    exact .inl rfl
  | some j =>
    obtain ⟨d, u, rfl, hd, rfl⟩ := Shape.eq_of_one hchar
    obtain rfl : d = '\r' := of_decide_eq_true hd
    rw [hchar, Option.getD_some] at hreturn
    subst hreturn
    obtain rfl : u = '\n' :: s := hdrop
    obtain ⟨w, rfl, hw, hone⟩ := eq_cons_cons_of_append (n := 1) hv hlength
    obtain ⟨a, rfl⟩ := List.length_eq_one_iff.1 hone
    rw [(List.cons.inj hw).1]
    exact .inr rfl

theorem lineComment_alike {x y y' : List Char} (h : lineComment (x ++ y) = some x.length)
    (hy : Alike y y') : lineComment (x ++ y') = some x.length := by
  rw [lineComment_eq, append_apply] at h ⊢
  obtain ⟨k, hk, hrest⟩ := Option.bind_eq_some_iff.1 h
  obtain ⟨m, hopt, hsum⟩ := Option.map_eq_some_iff.1 hrest
  have hm : (lineMark ((x ++ y).drop k)).getD 0 = m := Option.some.inj hopt
  clear hopt hrest
  have hkx : k ≤ x.length := by omega
  obtain ⟨u, v, rfl, rfl⟩ : ∃ u v, x = u ++ v ∧ u.length = k :=
    ⟨x.take k, x.drop k, (List.take_append_drop k x).symm, List.length_take_of_le hkx⟩
  rw [List.append_assoc, List.drop_left] at hm
  rw [List.append_assoc] at hk ⊢
  rw [List.length_append] at hsum
  have hstop : lineUnit (v ++ y) = none := by
    have hdone := Shape.many_stop hk
    rw [List.drop_left] at hdone
    exact hdone.resolve_right (lineUnit_ne_zero _)
  -- the mark lies in the comment, or there is none before either text
  have hsame : lineUnit (v ++ y') = none ∧ (lineMark (v ++ y')).getD 0 = m := by
    cases hmark : lineMark (v ++ y) with
    | some n =>
      rw [hmark, Option.getD_some] at hm
      obtain rfl : v.length = n := by omega
      rcases eq_of_lineMark hmark with rfl | rfl <;> exact ⟨rfl, hm⟩
    | none =>
      rw [hmark, Option.getD_none] at hm
      obtain rfl : v = [] := List.length_eq_zero_iff.1 (by omega)
      obtain ⟨c, r, r', rfl, rfl, hquestion⟩ := hy.head
      by_cases hc : c = '?'
      · obtain ⟨-, hclose⟩ := hquestion hc
        obtain ⟨s, rfl⟩ : ∃ s, r' = '>' :: s := by
          cases r' with
          | nil => cases hclose
          | cons d s => exact ⟨s, by rw [Option.some.inj hclose]⟩
        subst hc
        exact ⟨rfl, hm⟩
      · have hnone : lineMark (c :: r') = none := by
          simp [lineMark, append_apply, Shape.char, Shape.one, hc]
        rw [List.nil_append, lineUnit_cons hc] at hstop
        rw [List.nil_append, lineUnit_cons hc, hnone]
        exact ⟨hstop, hm⟩
  rw [Shape.many_steady hk hsame.1, Option.bind_some, List.drop_left, List.length_append]
  exact congrArg (fun n => some (u.length + n)) (hsame.2.trans (by omega))

/-! #### All comments -/

/-- The ways in which a comment begins, each with the number of characters of the comment. -/
inductive Commented : List Char → Nat → Prop
  | slashes {r : List Char} {n : Nat} : lineComment r = some n → Commented ('/' :: '/' :: r) (2 + n)
  | block {r : List Char} {n : Nat} : Shape.through "*/" r = some n →
      Commented ('/' :: '*' :: r) (2 + n)
  | hash {c : Char} {r : List Char} {n : Nat} : c ≠ '[' → ¬(c = '?' ∨ c = '\r' ∨ c = '\n') →
      lineComment r = some n → Commented ('#' :: c :: r) (2 + n)
  | lone {r : List Char} : (∀ c ∈ r.head?, c = '?' ∨ c = '\r' ∨ c = '\n') → Commented ('#' :: r) 1

theorem Commented.pos {cs : List Char} {n : Nat} (h : Commented cs n) : 0 < n := by
  cases h <;> omega

theorem Commented.mark {c : Char} {cs : List Char} {n : Nat} (h : Commented (c :: cs) n) :
    c = '/' ∨ c = '#' := by
  cases h with
  | slashes | block => exact .inl rfl
  | hash | lone => exact .inr rfl

theorem comment_eq_some_iff {cs : List Char} {n : Nat} : comment cs = some n ↔ Commented cs n := by
  constructor
  · intro h
    -- told by the first two characters, in the forward direction
    match cs with
    | [] => cases h
    | [c] =>
      by_cases hhash : c = '#'
      · subst hhash
        cases h
        exact .lone nofun
      · by_cases hslash : c = '/'
        · subst hslash
          cases h
        · rw [comment_of_ne hslash hhash] at h
          cases h
    | c :: d :: r =>
      by_cases hslash : c = '/'
      · subst hslash
        by_cases hd : d = '/'
        · subst hd
          rw [comment_slashes] at h
          obtain ⟨m, hm, rfl⟩ := Option.map_eq_some_iff.1 h
          exact .slashes hm
        · by_cases hd' : d = '*'
          · subst hd'
            rw [comment_block] at h
            obtain ⟨m, hm, rfl⟩ := Option.map_eq_some_iff.1 h
            exact .block hm
          · rw [comment_slash hd hd'] at h
            cases h
      · by_cases hhash : c = '#'
        · subst hhash
          rw [comment_hash] at h
          split at h
          · cases h
          · rename_i hopen
            split at h
            · rename_i hend
              cases h
              exact .lone fun e he => Option.some.inj he ▸ hend
            · rename_i hend
              obtain ⟨m, hm, rfl⟩ := Option.map_eq_some_iff.1 h
              exact .hash hopen hend hm
        · rw [comment_of_ne hslash hhash] at h
          cases h
  · intro h
    cases h with
    | slashes h => rw [comment_slashes, h, Option.map_some]
    | block h => rw [comment_block, h, Option.map_some]
    | hash hopen hend h => rw [comment_hash, if_neg hopen, if_neg hend, h, Option.map_some]
    | @lone r hend =>
      cases r with
      | nil => rfl
      | cons c r =>
        have hc := hend c rfl
        have hopen : c ≠ '[' := by rcases hc with rfl | rfl | rfl <;> decide
        rw [comment_hash, if_neg hopen, if_pos hc]

theorem comment_alike {x y y' : List Char} (h : comment (x ++ y) = some x.length)
    (hy : Alike y y') : comment (x ++ y') = some x.length := by
  rw [comment_eq_some_iff] at h ⊢
  generalize hcs : x ++ y = cs at h
  generalize hn : x.length = n at h ⊢
  cases h with
  | slashes h =>
    obtain ⟨v, rfl, rfl, rfl⟩ := eq_cons_cons_of_append hcs hn
    exact .slashes (lineComment_alike h hy)
  | block h =>
    obtain ⟨v, rfl, rfl, rfl⟩ := eq_cons_cons_of_append hcs hn
    exact .block ((Shape.steady_through "*/").apply h (Nat.le_refl _) y')
  | hash hopen hend h =>
    obtain ⟨v, rfl, rfl, rfl⟩ := eq_cons_cons_of_append hcs hn
    exact .hash hopen hend (lineComment_alike h hy)
  | lone hend =>
    -- what comes after the mark begins with the same character in both texts
    obtain ⟨c, rfl⟩ := List.length_eq_one_iff.1 hn
    obtain ⟨rfl, rfl⟩ := List.cons.inj hcs
    obtain ⟨d, r, r', rfl, rfl, -⟩ := hy.head
    exact .lone hend

/-! ### Passages -/

theorem interlude_cons (cs : List Char) : interlude ('?' :: '>' :: cs) = (passage cs).map (2 + ·) := by
  have hlength : "?>".length = 2 := rfl
  simp [interlude, append_apply, Shape.exactly, hlength]

theorem eq_of_interlude {cs : List Char} {n : Nat} (h : interlude cs = some n) :
    ∃ r, cs = '?' :: '>' :: r := by
  rw [interlude, append_apply] at h
  obtain ⟨k, hk, -⟩ := Option.bind_eq_some_iff.1 h
  rw [Shape.exactly] at hk
  split at hk
  · rename_i hfront
    obtain ⟨r, rfl⟩ := List.isPrefixOf_iff_prefix.1 hfront
    exact ⟨r, rfl⟩
  · cases hk

/-- A passage that does not reach the end of the text is the same before texts that are alike. -/
theorem passage_alike {x y y' : List Char} (h : passage (x ++ y) = some x.length)
    (hy : Alike y y') : passage (x ++ y') = some x.length := by
  rw [passage] at h ⊢
  cases hthrough : Shape.through "<?" (x ++ y) with
  | none =>
    rw [hthrough] at h
    obtain ⟨c, r, -, rfl, -, -⟩ := hy.head
    -- without a tag the passage would reach the end of the text
    have hlength := Option.some.inj h
    rw [List.length_append, List.length_cons] at hlength
    omega
  | some n =>
    rw [hthrough] at h
    obtain ⟨k, hk, hsum⟩ := Option.map_eq_some_iff.1 h
    -- the mark of the tag is in the passage, and so is all that the tag takes
    have htwo : 0 + 2 ≤ n := Shape.le_of_go hthrough
    obtain ⟨r, hdrop, rfl⟩ := eq_of_openTag hk
    have hnx : n ≤ x.length := by omega
    rw [(Shape.steady_through "<?").apply hthrough hnx y']
    dsimp only
    rw [List.drop_append_of_le_length (by omega)] at hdrop ⊢
    have hlength : (x.drop (n - 2)).length = 2 + (tagWord r).getD 0 := by
      rw [List.length_drop]
      omega
    obtain ⟨v, hv, rfl, hrest⟩ := eq_cons_cons_of_append hdrop hlength
    rw [hv]
    rw [List.cons_append, List.cons_append, openTag_cons, Option.map_some]
    have hsame : (tagWord (v ++ y')).getD 0 = (tagWord (v ++ y)).getD 0 := by
      cases v with
      | nil => rw [List.nil_append, List.nil_append, hy.tag]
      | cons c v =>
        cases htag : tagWord (c :: v ++ y) with
        | none =>
          rw [htag, Option.getD_none] at hrest
          cases hrest
        | some m =>
          rw [htag, Option.getD_some] at hrest
          rw [steady_tagWord.apply htag (Nat.le_of_eq hrest.symm) y']
    rw [hsame, ← hsum]

instance bounded_interlude : Shape.Bounded interlude := by
  have htag : Shape.Bounded openTag := by unfold openTag; infer_instance
  have hpassage : Shape.Bounded passage := by
    refine ⟨fun {cs n} h => ?_⟩
    rw [passage] at h
    split at h
    · exact Nat.le_of_eq (Option.some.inj h).symm
    · rename_i k hk
      obtain ⟨m, hm, rfl⟩ := Option.map_eq_some_iff.1 h
      have hfirst := (Shape.bounded_through "<?").le hk
      have hlast := htag.le hm
      rw [List.length_drop] at hlast
      omega
  unfold interlude
  infer_instance

/-! ### Gaps -/

theorem comment_ne_zero (cs : List Char) : comment cs ≠ some 0 :=
  fun h => absurd (comment_eq_some_iff.1 h).pos (Nat.lt_irrefl 0)

/-- The leaf with which a gap begins: blanks, or else a comment, or else a passage. -/
inductive IsFirst (y : List Char) : Tree → Prop
  | blank {c : Char} {x : List Char} : isSpace c = true →
      Shape.many1 (.one isSpace) (c :: x ++ y) = some (c :: x).length →
      IsFirst y (.leaf .blank (c :: x))
  | comment {c : Char} {x : List Char} : isSpace c = false →
      Page.comment (c :: x ++ y) = some (c :: x).length → IsFirst y (.leaf .comment (c :: x))
  | passage {x : List Char} : Page.passage (x ++ y) = some x.length →
      IsFirst y (.leaf .passage ('?' :: '>' :: x))

theorem gapLeaf?_of_space {c : Char} (hc : isSpace c = false) (cs : List Char) :
    gapLeaf? (c :: cs) = match comment.split? (c :: cs) with
      | some (text, rest) => some (.leaf .comment text, rest)
      | none => (interlude.split? (c :: cs)).map fun (text, rest) => (.leaf .passage text, rest) := by
  have hnone : (Shape.many1 (.one isSpace)).split? (c :: cs) = none :=
    Shape.split?_of_none (by rw [Shape.many1_one_cons, hc]; rfl)
  unfold gapLeaf?
  generalize (Shape.many1 (.one isSpace)).split? (c :: cs) = spaces at hnone ⊢
  subst hnone
  rfl

theorem gapLeaf?_of_ne {c : Char} (hc : isSpace c = false) (hslash : c ≠ '/') (hhash : c ≠ '#')
    (hquestion : c ≠ '?') (cs : List Char) : gapLeaf? (c :: cs) = none := by
  have hinterlude : interlude (c :: cs) = none := by
    cases h : interlude (c :: cs) with
    | none => rfl
    | some n =>
      obtain ⟨r, hr⟩ := eq_of_interlude h
      exact absurd (List.cons.inj hr).1 hquestion
  rw [gapLeaf?_of_space hc, Shape.split?_of_none (comment_of_ne hslash hhash cs),
    Shape.split?_of_none hinterlude]
  rfl

theorem IsFirst.gapLeaf? {y : List Char} {t : Tree} (h : IsFirst y t) :
    gapLeaf? (t.text ++ y) = some (t, y) := by
  cases h with
  | blank hc hblank =>
    unfold Page.gapLeaf?
    rw [Tree.text, Shape.split?_append hblank]
  | comment hc hcomment =>
    rw [Tree.text, List.cons_append, gapLeaf?_of_space hc, ← List.cons_append,
      Shape.split?_append hcomment]
  | passage hpassage =>
    rename_i x
    have hinterlude : interlude ('?' :: '>' :: x ++ y) = some ('?' :: '>' :: x).length := by
      rw [List.cons_append, List.cons_append, interlude_cons, hpassage]
      exact congrArg some (by simp only [List.length_cons]; omega)
    have hcomment : Page.comment ('?' :: ('>' :: x ++ y)) = none := rfl
    rw [Tree.text, List.cons_append, gapLeaf?_of_space (by rfl), Shape.split?_of_none hcomment,
      ← List.cons_append, Shape.split?_append hinterlude]
    rfl

theorem isFirst_of_gapLeaf? {cs y : List Char} {t : Tree} (h : gapLeaf? cs = some (t, y)) :
    t.text ++ y = cs ∧ IsFirst y t := by
  cases cs with
  | nil => cases h
  | cons c cs =>
    -- blanks are tried first, then comments, then passages
    by_cases hc : isSpace c = true
    · obtain ⟨n, hn⟩ : ∃ n, Shape.many1 (.one isSpace) (c :: cs) = some (n + 1) := by
        rw [Shape.many1_one_cons, if_pos hc]
        exact ⟨_, congrArg some (Nat.add_comm 1 _)⟩
      have hle := (Shape.bounded_many1).le hn
      unfold gapLeaf? at h
      rw [Shape.split?, hn] at h
      cases h
      refine ⟨List.take_append_drop _ _, .blank hc ?_⟩
      rw [← List.take_succ_cons, List.take_append_drop, List.length_take_of_le hle]
      exact hn
    · have hspace : isSpace c = false := by simpa using hc
      rw [gapLeaf?_of_space hspace] at h
      split at h
      · rename_i text rest hsplit
        cases h
        have hcs := Shape.append_of_split? hsplit
        have hlength := Shape.eq_length_of_split? hsplit
        cases text with
        | nil => exact absurd hlength (comment_ne_zero _)
        | cons d x =>
          obtain ⟨rfl, rfl⟩ := List.cons.inj hcs
          exact ⟨rfl, .comment hspace hlength⟩
      · obtain ⟨⟨text, rest⟩, hsplit, heq⟩ := Option.map_eq_some_iff.1 h
        cases heq
        have hcs := Shape.append_of_split? hsplit
        have hlength := Shape.eq_length_of_split? hsplit
        obtain ⟨r, hr⟩ := eq_of_interlude hlength
        rw [hr, interlude_cons] at hlength
        obtain ⟨n, hn, hsum⟩ := Option.map_eq_some_iff.1 hlength
        obtain ⟨x, rfl, rfl, rfl⟩ := eq_cons_cons_of_append (hcs.trans hr) hsum.symm
        exact ⟨hr.symm, .passage hn⟩

instance cuts_gapLeaf? : Cuts gapLeaf? where
  text h := (isFirst_of_gapLeaf? h).1
  ne_nil h := by
    cases (isFirst_of_gapLeaf? h).2 <;> nofun

theorem gaps_eq_cut (cs : List Char) : gaps cs = cut gapLeaf? cs := by
  have hover (bound cs : List Char) : gapsOver bound cs = cutOver gapLeaf? bound cs := by
    induction bound generalizing cs with
    | nil => rfl
    | cons c bound ih =>
      rw [gapsOver, cutOver]
      cases gapLeaf? cs with
      | none => rfl
      | some leaf =>
        dsimp only
        rw [ih]
  exact hover cs cs

theorem gapLeaf?_alike {t : Tree} {y y' : List Char} (h : gapLeaf? (t.text ++ y) = some (t, y))
    (hy : Alike y y') :
    gapLeaf? (t.text ++ y') = some (t, y') ∧ Alike (t.text ++ y) (t.text ++ y') := by
  obtain ⟨-, hfirst⟩ := isFirst_of_gapLeaf? h
  cases hfirst with
  | @blank c x hc hblank =>
    -- a text that begins with a blank is alike any that begins with the same one
    have hne {d : Char} (hd : isSpace d = false) : c ≠ d := fun h => by
      rw [← h, hc] at hd
      cases hd
    obtain ⟨d, r, r', rfl, rfl, -⟩ := hy.head
    have hstop := Shape.one_of_many1_one hblank
    change Shape.one isSpace (d :: r') = none at hstop
    exact ⟨(IsFirst.blank hc (Shape.many1_one_before hblank hstop)).gapLeaf?,
      alike_cons (hne rfl) (hne rfl) (hne rfl) (hne rfl) _ _⟩
  | @comment c x hc hcomment =>
    have hmark := (comment_eq_some_iff.1 hcomment).mark
    have hne {d : Char} (hd : d ≠ '/') (hd' : d ≠ '#') : c ≠ d := by
      rcases hmark with rfl | rfl
      · exact hd.symm
      · exact hd'.symm
    exact ⟨(IsFirst.comment hc (comment_alike hcomment hy)).gapLeaf?,
      alike_cons (hne (by decide) (by decide)) (hne (by decide) (by decide))
        (hne (by decide) (by decide)) (hne (by decide) (by decide)) _ _⟩
  | passage hpassage =>
    refine ⟨(IsFirst.passage (passage_alike hpassage hy)).gapLeaf?, ⟨⟨'?', _, _, rfl, rfl, ?_⟩, rfl⟩⟩
    exact fun _ => ⟨rfl, rfl⟩

/-- A gap is cut off in the same way before texts that are alike. -/
theorem gaps_alike {raw rest rest' : List Char} {f : Forest} (h : gaps raw = (f, rest))
    (hy : Alike rest rest') (hstop : gapLeaf? rest' = none) :
    gaps (Tree.textOfList f ++ rest') = (f, rest') := by
  rw [gaps_eq_cut] at h ⊢
  exact (cut_before gapLeaf?_alike h hy hstop).1

theorem gaps_of_none {cs : List Char} (h : gapLeaf? cs = none) : gaps cs = ([], cs) := by
  rw [gaps_eq_cut, cut_of_none h]

theorem gaps_of_some {cs rest : List Char} {t : Tree} (h : gapLeaf? cs = some (t, rest)) :
    gaps cs = (t :: (gaps rest).1, (gaps rest).2) := by
  rw [gaps_eq_cut, gaps_eq_cut, cut_of_some h]

theorem gapLeaf?_of_gaps {raw rest : List Char} {f : Forest} (h : gaps raw = (f, rest)) :
    gapLeaf? rest = none := by
  rw [gaps_eq_cut] at h
  exact leaf?_of_cut h

theorem text_gaps (raw : List Char) : Tree.textOfList (gaps raw).1 ++ (gaps raw).2 = raw := by
  rw [gaps_eq_cut]
  exact text_of_cut rfl

theorem text_of_gaps {raw rest : List Char} {f : Forest} (h : gaps raw = (f, rest)) :
    Tree.textOfList f ++ rest = raw := by
  have htext := text_gaps raw
  rwa [h] at htext

/-! ### Blanks and documentation -/

theorem not_isSpace_of_stop {cs : List Char} (h : gapLeaf? cs = none) :
    Shape.one isSpace cs = none := by
  cases cs with
  | nil => rfl
  | cons c cs =>
    refine if_neg fun hspace => ?_
    unfold gapLeaf? at h
    rw [Shape.split?, Shape.many1_one_cons, if_pos hspace] at h
    cases h

theorem gapLeaf?_blank {c : Char} {x rest : List Char} (hc : isSpace c = true)
    (hx : ∀ d ∈ x, isSpace d = true) (hrest : Shape.one isSpace rest = none) :
    gapLeaf? (c :: x ++ rest) = some (.leaf .blank (c :: x), rest) :=
  (IsFirst.blank hc (Shape.many1_one_append hc hx hrest)).gapLeaf?

theorem gaps_blank {c : Char} {x rest : List Char} (hc : isSpace c = true)
    (hx : ∀ d ∈ x, isSpace d = true) (hrest : gapLeaf? rest = none) :
    gaps (c :: x ++ rest) = ([.leaf .blank (c :: x)], rest) := by
  rw [gaps_of_some (gapLeaf?_blank hc hx (not_isSpace_of_stop hrest)), gaps_of_none hrest]

theorem isBlock_of_comment {cs : List Char} (h : comment.Takes cs) (hdoc : isDocBlock cs = true) :
    IsBlock cs := by
  obtain ⟨r, rfl⟩ := List.isPrefixOf_iff_prefix.1 hdoc
  obtain ⟨rest, hrest⟩ := h
  change comment ('/' :: '*' :: ('*' :: r ++ rest)) = some ('/' :: '*' :: '*' :: r).length at hrest
  rw [comment_block] at hrest
  obtain ⟨n, hn, hsum⟩ := Option.map_eq_some_iff.1 hrest
  obtain rfl : n = ('*' :: r).length := by
    simp only [List.length_cons] at hsum ⊢
    omega
  exact ⟨'*' :: r, rfl, ⟨rest, hn⟩, hdoc⟩

theorem gapLeaf?_block {cs : List Char} (h : IsBlock cs) (rest : List Char) :
    gapLeaf? (cs ++ rest) = some (.leaf .comment cs, rest) := by
  obtain ⟨r, rfl, hr, -⟩ := h
  have hcomment : comment ('/' :: '*' :: r ++ rest) = some ('/' :: '*' :: r).length := by
    rw [List.cons_append, List.cons_append, comment_block, hr.steady rest]
    exact congrArg some (Nat.add_comm 2 r.length)
  exact (IsFirst.comment rfl hcomment).gapLeaf?

/-! ### Words -/

/-- A word that begins where a gap ends. -/
def IsWord (cs : List Char) : Prop := wordShape.Takes cs ∧ ∀ rest, gapLeaf? (cs ++ rest) = none

instance bounded_wordPart : Shape.Bounded wordPart := Shape.bounded_one _
instance steady_wordPart : Shape.Steady wordPart := Shape.steady_one _

theorem exists_cons_of_takes {cs : List Char} (h : wordShape.Takes cs) :
    ∃ c r, cs = c :: r ∧ isWordStart c = true := by
  obtain ⟨c, r, rfl⟩ := List.exists_cons_of_ne_nil (Shape.ne_nil_of_takes_one h)
  obtain ⟨rest, hrest⟩ := h
  rw [wordShape, append_apply, List.cons_append, Shape.one] at hrest
  split at hrest
  · rename_i hc
    exact ⟨c, r, rfl, hc⟩
  · cases hrest

theorem wordShape_before {cs rest : List Char} (h : wordShape.Takes cs) (hrest : wordPart rest = none) :
    wordShape (cs ++ rest) = some cs.length :=
  Shape.takes_append_many h hrest

theorem wordPart_after {cs rest : List Char} (h : wordShape (cs ++ rest) = some cs.length) :
    wordPart rest = none := by
  obtain ⟨c, r, rfl, hc⟩ := exists_cons_of_takes ⟨rest, h⟩
  rw [wordShape, append_apply, List.cons_append, Shape.one, if_pos hc, Option.bind_some,
    List.drop_one, List.tail_cons] at h
  obtain ⟨n, hn, hlength⟩ := Option.map_eq_some_iff.1 h
  obtain rfl : n = r.length := by
    rw [List.length_cons] at hlength
    omega
  have hstop := Shape.many_stop hn
  rw [List.drop_left] at hstop
  exact hstop.resolve_right (Shape.one_ne_zero _)

theorem isWord_of_gaps {raw cs rest : List Char} {f : Forest} (h : gaps raw = (f, cs ++ rest))
    (hword : wordShape (cs ++ rest) = some cs.length) : IsWord cs := by
  have htakes : wordShape.Takes cs := ⟨rest, hword⟩
  obtain ⟨c, r, rfl, hc⟩ := exists_cons_of_takes htakes
  have hspace : isSpace c = false := by
    have hstop := not_isSpace_of_stop (gapLeaf?_of_gaps h)
    rw [List.cons_append, Shape.one] at hstop
    simpa using hstop
  have hne {d : Char} (hd : isWordStart d = false) : c ≠ d := fun h => by
    rw [← h, hc] at hd
    cases hd
  exact ⟨htakes, fun rest' => gapLeaf?_of_ne hspace (hne rfl) (hne rfl) (hne rfl) (r ++ rest')⟩

theorem tagWord_short {c : Char} (hc : c ≠ '=') {y : List Char}
    (hy : ∀ d r, y = d :: r → d ≠ 'h' ∧ d ≠ 'H') : tagWord (c :: y) = none := by
  by_cases hp : c = 'p' ∨ c = 'P'
  · cases y with
    | nil => simp [tagWord, orElse_apply, append_apply, Shape.char, Shape.one, hc, hp]
    | cons d r =>
      obtain ⟨h, h'⟩ := hy d r rfl
      simp [tagWord, orElse_apply, append_apply, Shape.char, Shape.one, hc, hp, h, h']
  · rw [not_or] at hp
    exact tagWord_of_ne hp.1 hp.2 hc y

theorem tagWord_long {c : Char} (hc : c ≠ '=') (d : Char) {y : List Char}
    (hy : ∀ e r, y = e :: r → e ≠ 'p' ∧ e ≠ 'P') : tagWord (c :: d :: y) = none := by
  by_cases hh : d = 'h' ∨ d = 'H'
  · by_cases hp : c = 'p' ∨ c = 'P'
    · cases y with
      | nil => simp [tagWord, orElse_apply, append_apply, Shape.char, Shape.one, hc, hp, hh]
      | cons e r =>
        obtain ⟨h, h'⟩ := hy e r rfl
        simp [tagWord, orElse_apply, append_apply, Shape.char, Shape.one, hc, hp, hh, h, h']
    · rw [not_or] at hp
      exact tagWord_of_ne hp.1 hp.2 hc _
  · refine tagWord_short hc fun e r h => ?_
    rw [not_or] at hh
    exact (List.cons.inj h).1 ▸ hh

theorem tagWord_congr (c d e : Char) (r r' : List Char) :
    tagWord (c :: d :: e :: r) = tagWord (c :: d :: e :: r') := by
  by_cases hp : c = 'p' ∨ c = 'P'
  · by_cases hh : d = 'h' ∨ d = 'H'
    · simp [tagWord, orElse_apply, append_apply, Shape.char, Shape.one, hp, hh]
    · simp [tagWord, orElse_apply, append_apply, Shape.char, Shape.one, hp, hh]
  · simp [tagWord, orElse_apply, append_apply, Shape.char, Shape.one, hp]

/-- Words before which a gap ends are alike before texts that do not go on with them. -/
theorem alike_word {cs r r' : List Char} (h : wordShape.Takes cs) (hr : wordPart r = none)
    (hr' : wordPart r' = none) : Alike (cs ++ r) (cs ++ r') := by
  obtain ⟨c, x, rfl, hc⟩ := exists_cons_of_takes h
  have hne {c d : Char} (hc : isWordStart c = true) (hd : isWordStart d = false) : c ≠ d :=
    fun h => by
      rw [← h, hc] at hd
      cases hd
  have hother {y : List Char} (hy : wordPart y = none) (d : Char) (z : List Char)
      (hz : y = d :: z) {e : Char} (he : isWordStart e = true) : d ≠ e := by
    rintro rfl
    rw [hz, wordPart, Shape.one, he] at hy
    cases hy
  refine ⟨⟨c, x ++ r, x ++ r', rfl, rfl, fun h => absurd h (hne hc rfl)⟩, ?_⟩
  -- the tag looks at three characters, and goes on with characters of words only
  match x with
  | [] =>
    have hnone {y : List Char} (hy : wordPart y = none) : tagWord (c :: y) = none :=
      tagWord_short (hne hc rfl) fun d z hz => ⟨hother hy d z hz rfl, hother hy d z hz rfl⟩
    exact (hnone hr).trans (hnone hr').symm
  | [d] =>
    have hnone {y : List Char} (hy : wordPart y = none) : tagWord (c :: d :: y) = none :=
      tagWord_long (hne hc rfl) d fun e z hz => ⟨hother hy e z hz rfl, hother hy e z hz rfl⟩
    exact (hnone hr).trans (hnone hr').symm
  | d :: e :: x => exact tagWord_congr c d e _ _

end Docent.Page
