import Docent.Grammar.Script.Lexical
import Docent.Proofs.Scan.Gaps
import Docent.Proofs.Steady

/-!
# Gaps and words of scripts

A gap of a script is blanks and comments, one after the other. A word is the same before any text
that does not go on with it, and no gap goes on where a word begins.
-/

namespace Docent.Script

open Scan
open Docent.Shape (append_apply orElse_apply)

/-! ### Gaps -/

instance bounded_comment : Shape.Bounded comment := by unfold comment; infer_instance

theorem comment_of_ne {c : Char} (h : c ≠ '/') (cs : List Char) : comment (c :: cs) = none := by
  have h' : '/' ≠ c := h.symm
  simp [comment, orElse_apply, append_apply, Shape.exactly, List.isPrefixOf, h']

theorem comment_block (cs : List Char) :
    comment ('/' :: '*' :: cs) = (Shape.through "*/" cs).map (2 + ·) := by
  have hlength : "/*".length = 2 := rfl
  simp [comment, orElse_apply, append_apply, Shape.exactly, List.isPrefixOf, hlength]

theorem comment_ne_zero (cs : List Char) : comment cs ≠ some 0 := by
  have hmark {s : String} (hs : s.length = 2) (a : Shape) : (Shape.exactly s ++ a) cs ≠ some 0 := by
    intro h
    obtain ⟨r, m, -, -, hlength⟩ := Shape.eq_of_exactly_append h
    omega
  rw [comment, orElse_apply]
  intro h
  rcases Option.or_eq_some_iff.1 h with h | ⟨-, h⟩
  · exact hmark rfl _ h
  · exact hmark rfl _ h

instance cuts_gapLeaf? : Cuts gapLeaf? where
  text {cs rest t} h := by
    unfold gapLeaf? at h
    split at h
    · rename_i hsplit
      cases h
      exact Shape.append_of_split? hsplit
    · obtain ⟨⟨text, rest'⟩, hsplit, heq⟩ := Option.map_eq_some_iff.1 h
      cases heq
      exact Shape.append_of_split? hsplit
  ne_nil {cs rest t} h := by
    unfold gapLeaf? at h
    split at h
    · rename_i hsplit
      cases h
      rintro rfl
      exact Shape.many1_one_ne_zero cs (Shape.eq_length_of_split? hsplit)
    · obtain ⟨⟨text, rest'⟩, hsplit, heq⟩ := Option.map_eq_some_iff.1 h
      cases heq
      rintro rfl
      exact comment_ne_zero cs (Shape.eq_length_of_split? hsplit)

theorem gaps_eq_cut (cs : List Char) : gaps cs = cut gapLeaf? cs := by
  have hover (bound cs : List Char) : gapsOver bound cs = cutOver gapLeaf? bound cs := by
    induction bound generalizing cs with
    | nil => rfl
    | cons c bound ih =>
      rw [gapsOver, cutOver]
      cases gapLeaf? cs with
      | none => rfl
      | some leaf =>
        dsimp only
        rw [ih]
  exact hover cs cs

theorem gaps_of_none {cs : List Char} (h : gapLeaf? cs = none) : gaps cs = ([], cs) := by
  rw [gaps_eq_cut, cut_of_none h]

theorem gaps_of_some {cs rest : List Char} {t : Tree} (h : gapLeaf? cs = some (t, rest)) :
    gaps cs = (t :: (gaps rest).1, (gaps rest).2) := by
  rw [gaps_eq_cut, gaps_eq_cut, cut_of_some h]

theorem text_gaps (raw : List Char) : Tree.textOfList (gaps raw).1 ++ (gaps raw).2 = raw := by
  rw [gaps_eq_cut]
  exact text_of_cut rfl

theorem text_of_gaps {raw rest : List Char} {f : Forest} (h : gaps raw = (f, rest)) :
    Tree.textOfList f ++ rest = raw := by
  have htext := text_gaps raw
  rwa [h] at htext

theorem gapLeaf?_of_space {c : Char} (hc : isSpace c = false) (cs : List Char) :
    gapLeaf? (c :: cs) = (comment.split? (c :: cs)).map fun (text, rest) =>
      (.leaf .comment text, rest) := by
  have hnone : (Shape.many1 (.one isSpace)).split? (c :: cs) = none :=
    Shape.split?_of_none (by rw [Shape.many1_one_cons, hc]; rfl)
  unfold gapLeaf?
  rw [hnone]

theorem gapLeaf?_of_ne {c : Char} (hc : isSpace c = false) (hslash : c ≠ '/') (cs : List Char) :
    gapLeaf? (c :: cs) = none := by
  rw [gapLeaf?_of_space hc, Shape.split?_of_none (comment_of_ne hslash cs)]
  rfl

theorem not_isSpace_of_stop {cs : List Char} (h : gapLeaf? cs = none) :
    Shape.one isSpace cs = none := by
  cases cs with
  | nil => rfl
  | cons c cs =>
    refine if_neg fun hspace => ?_
    unfold gapLeaf? at h
    rw [Shape.split?, Shape.many1_one_cons, if_pos hspace] at h
    cases h

theorem gaps_blank {c : Char} {rest : List Char} (hc : isSpace c = true)
    (hrest : gapLeaf? rest = none) : gaps (c :: rest) = ([.leaf .blank [c]], rest) := by
  have hblank := Shape.many1_one_append (x := []) hc nofun (not_isSpace_of_stop hrest)
  have hleaf : gapLeaf? (c :: rest) = some (.leaf .blank [c], rest) := by
    unfold gapLeaf?
    rw [show c :: rest = [c] ++ rest from rfl, Shape.split?_append hblank]
  rw [gaps_of_some hleaf, gaps_of_none hrest]

theorem isBlock_of_comment {cs : List Char} (h : comment.Takes cs) (hdoc : isDocBlock cs = true) :
    IsBlock cs := by
  obtain ⟨r, rfl⟩ := List.isPrefixOf_iff_prefix.1 hdoc
  obtain ⟨rest, hrest⟩ := h
  change comment ('/' :: '*' :: ('*' :: r ++ rest)) = _ at hrest
  rw [comment_block] at hrest
  obtain ⟨n, hn, hlength⟩ := Option.map_eq_some_iff.1 hrest
  refine ⟨'*' :: r, rfl, ⟨rest, hn.trans (congrArg some ?_)⟩, hdoc⟩
  rw [List.length_append, List.length_cons, List.length_cons, List.length_singleton] at hlength
  rw [List.length_cons]
  omega

theorem gapLeaf?_block {cs : List Char} (h : IsBlock cs) (rest : List Char) :
    gapLeaf? (cs ++ rest) = some (.leaf .comment cs, rest) := by
  obtain ⟨r, rfl, hr, -⟩ := h
  have hcomment : comment ('/' :: '*' :: r ++ rest) = some ('/' :: '*' :: r).length := by
    rw [List.cons_append, List.cons_append, comment_block, hr.steady rest]
    exact congrArg some (Nat.add_comm 2 r.length)
  rw [List.cons_append, gapLeaf?_of_space rfl, ← List.cons_append, Shape.split?_append hcomment]
  rfl

/-- A comment is the same before less of what follows it. -/
theorem comment_before_less {x y y' : List Char} (h : comment (x ++ y) = some x.length)
    (hy : y' <+: y) : comment (x ++ y') = some x.length := by
  rw [comment, orElse_apply] at h ⊢
  rcases Option.or_eq_some_iff.1 h with h | ⟨hnone, h⟩
  · obtain ⟨v, rfl, hv⟩ := Shape.exists_of_exactly_append h
    have hstop : Shape.one (!isLineEnd ·) y' = none := by
      have hend := Shape.many_stop hv
      rw [List.drop_left] at hend
      obtain ⟨z, rfl⟩ := hy
      cases y' with
      | nil => rfl
      | cons c y' => exact hend.resolve_right (Shape.one_ne_zero _)
    rw [List.append_assoc, Shape.exactly_append_apply, Shape.many_steady hv hstop, List.length_append,
      String.length_toList]
    rfl
  · obtain ⟨v, rfl, hv⟩ := Shape.exists_of_exactly_append h
    have hfirst : ∀ z, (Shape.exactly "//" ++ Shape.many (.one (!isLineEnd ·)))
        ("/*".toList ++ v ++ z) = none := by
      intro z
      rw [append_apply]
      rfl
    rw [hfirst, List.append_assoc, Shape.exactly_append_apply,
      (Shape.steady_through "*/").apply hv (Nat.le_refl _), List.length_append, String.length_toList]
    rfl

/-- Blanks and a comment before what is all a gap are one with it. -/
theorem gaps_blank_comment {blank x y : List Char} (hblank : ∀ c ∈ blank, isSpace c = true)
    (hx : comment (x ++ y) = some x.length) (hy : (gaps y).2 = []) :
    (gaps (blank ++ (x ++ y))).2 = [] := by
  obtain ⟨v, rfl⟩ : ∃ v, x = '/' :: v := by
    cases x with
    | nil => exact absurd hx (comment_ne_zero y)
    | cons c v =>
      refine ⟨v, congrArg (· :: v) (Decidable.byContradiction fun hc => ?_)⟩
      rw [List.cons_append, comment_of_ne hc] at hx
      cases hx
  have hcomment : gapLeaf? ('/' :: v ++ y) = some (.leaf .comment ('/' :: v), y) := by
    rw [List.cons_append, gapLeaf?_of_space rfl, ← List.cons_append, Shape.split?_append hx]
    rfl
  cases blank with
  | nil =>
    rw [List.nil_append, gaps_of_some hcomment]
    exact hy
  | cons c blank =>
    obtain ⟨hc, hrest⟩ := List.forall_mem_cons.1 hblank
    have hleaf : gapLeaf? (c :: blank ++ ('/' :: v ++ y)) =
        some (.leaf .blank (c :: blank), '/' :: v ++ y) := by
      unfold gapLeaf?
      rw [Shape.split?_append (Shape.many1_one_append hc hrest rfl)]
    rw [gaps_of_some hleaf, gaps_of_some hcomment]
    exact hy

/-! ### Words -/

instance bounded_wordEscape : Shape.Bounded wordEscape := by unfold wordEscape; infer_instance
instance bounded_wordPart : Shape.Bounded wordPart := by unfold wordPart; infer_instance
instance bounded_wordShape : Shape.Bounded wordShape := by
  unfold wordShape wordStart; infer_instance

/-- A number between braces after the mark of an escape. -/
def longEscape : Shape := .exactly "\\u\x7b" ++ .many1 (.one isHexDigit) ++ .char '\x7d'

def shortEscape : Shape := .exactly "\\u" ++ .times 4 (.one isHexDigit)

theorem wordEscape_eq : wordEscape = (longEscape <|> shortEscape) := rfl

theorem longEscape_eq : longEscape = .exactly "\\u\x7b" ++
    (.one isHexDigit ++ (.many (.one isHexDigit) ++ .char '\x7d')) := by
  rw [longEscape, Shape.append_assoc, Shape.many1, Shape.append_assoc]

theorem eq_of_shortEscape {cs : List Char} {n : Nat} (h : shortEscape cs = some n) :
    ∃ c r, cs = '\\' :: 'u' :: c :: r ∧ isHexDigit c = true ∧ 3 ≤ n := by
  obtain ⟨r, m, rfl, hm, rfl⟩ := Shape.eq_of_exactly_append h
  obtain ⟨c, r, k, rfl, hc, -, rfl⟩ := Shape.eq_of_one_append hm
  have hmark : "\\u".length = 2 := rfl
  exact ⟨c, r, rfl, hc, by omega⟩

theorem eq_of_wordEscape {cs : List Char} {n : Nat} (h : wordEscape cs = some n) :
    ∃ r, cs = '\\' :: r ∧ n ≠ 0 := by
  rw [wordEscape_eq, orElse_apply] at h
  rcases Option.or_eq_some_iff.1 h with h | ⟨-, h⟩
  · rw [longEscape_eq] at h
    obtain ⟨r, m, rfl, -, rfl⟩ := Shape.eq_of_exactly_append h
    have hmark : "\\u\x7b".length = 3 := rfl
    exact ⟨_, rfl, by omega⟩
  · obtain ⟨c, r, rfl, -, hn⟩ := eq_of_shortEscape h
    exact ⟨_, rfl, by omega⟩

instance steady_wordEscape : Shape.Steady wordEscape := by
  have hmany := Shape.steady_many_char (p := isHexDigit) (c := '\x7d') (by decide)
  have hlong : Shape.Steady longEscape := by rw [longEscape_eq]; infer_instance
  have hshort : Shape.Steady shortEscape := by unfold shortEscape; infer_instance
  rw [wordEscape_eq]
  refine Shape.steady_or fun {x y n} _ hn hle y' => ?_
  -- the digit that the short one takes is no brace
  obtain ⟨c, r, hxy, hc, hthree⟩ := eq_of_shortEscape hn
  cases hlast : longEscape (x ++ y') with
  | none => rfl
  | some m =>
    rw [longEscape_eq] at hlast
    obtain ⟨r', k, hxy', -⟩ := Shape.eq_of_exactly_append hlast
    have hsame (z : List Char) : (x ++ z)[2]? = x[2]? := List.getElem?_append_left (by omega)
    have hthird : (x ++ y)[2]? = (x ++ y')[2]? := (hsame y).trans (hsame y').symm
    rw [hxy, hxy'] at hthird
    obtain rfl : c = '\x7b' := Option.some.inj hthird
    cases hc

instance steady_wordStart : Shape.Steady wordStart := by
  refine Shape.steady_orElse (fun cs h => ?_) fun c cs cs' h _ => h
  obtain ⟨r, -, hpos⟩ := eq_of_wordEscape h
  exact hpos rfl

instance steady_wordPart : Shape.Steady wordPart := by
  refine Shape.steady_orElse (fun cs h => ?_) fun c cs cs' h _ => h
  obtain ⟨r, -, hpos⟩ := eq_of_wordEscape h
  exact hpos rfl

theorem wordShape_before {cs rest : List Char} (h : wordShape.Takes cs) (hrest : wordPart rest = none) :
    wordShape (cs ++ rest) = some cs.length :=
  Shape.takes_append_many h hrest

theorem gapLeaf?_word {cs : List Char} (h : wordShape.Takes cs) (rest : List Char) :
    gapLeaf? (cs ++ rest) = none := by
  obtain ⟨after, hafter⟩ := h
  rw [wordShape, append_apply] at hafter
  obtain ⟨n, hn, hmany⟩ := Option.bind_eq_some_iff.1 hafter
  obtain ⟨m, -, hlength⟩ := Option.map_eq_some_iff.1 hmany
  rw [wordStart, orElse_apply] at hn
  have hfirst : ∃ c r, cs ++ after = c :: r ∧ isSpace c = false ∧ c ≠ '/' ∧ n ≠ 0 := by
    rcases Option.or_eq_some_iff.1 hn with hone | ⟨-, hescape⟩
    · obtain ⟨c, r, hcs, hc, hone⟩ := Shape.eq_of_one hone
      have hspace : isSpace c = false := by
        cases hspace : isSpace c with
        | false => rfl
        | true => simp [isWordStart, hspace] at hc
      refine ⟨c, r, hcs, hspace, ?_, by omega⟩
      rintro rfl
      cases hc
    · obtain ⟨r, hcs, hpos⟩ := eq_of_wordEscape hescape
      exact ⟨'\\', r, hcs, rfl, by decide, hpos⟩
  obtain ⟨c, r, hcs, hspace, hslash, hpos⟩ := hfirst
  cases cs with
  | nil =>
    rw [List.length_nil] at hlength
    omega
  | cons d cs =>
    obtain ⟨rfl, -⟩ := List.cons.inj hcs
    exact gapLeaf?_of_ne hspace hslash (cs ++ rest)

end Docent.Script
