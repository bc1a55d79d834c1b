import Docent.Proofs.Lines

/-!
# Spans of lines

A text is cut into lines that each end with their only line feed, the last one with or without it.
Main statement: these lines make up the text, and spans of lines that adjoin make up the span of
them all.
-/

namespace Docent

variable {cs : List Char}

/-! ### What the lines look like -/

theorem mem_dropLast_startLine {c : Char} {l : List Char} {ls : List (List Char)}
    (h : l ∈ (startLine c ls).dropLast) : (∃ l' ∈ ls.dropLast, l = c :: l') ∨ l ∈ ls.dropLast := by
  match ls with
  | [] => cases h
  | [l'] => cases h
  | l' :: l'' :: ls =>
    rw [startLine, List.dropLast_cons_cons] at h
    rw [List.dropLast_cons_cons]
    rcases List.mem_cons.1 h with rfl | h
    · exact .inl ⟨l', List.mem_cons_self, rfl⟩
    · exact .inr (List.mem_cons_of_mem l' h)

theorem sourceLine_ne_nil : ∀ l ∈ sourceLines cs, l ≠ [] := by
  induction cs with
  | nil => exact fun l hl => absurd hl List.not_mem_nil
  | cons c cs ih =>
    rw [sourceLines]
    split
    · exact List.forall_mem_cons.2 ⟨List.cons_ne_nil _ _, ih⟩
    · intro l hl
      rcases mem_startLine hl with rfl | ⟨l', -, rfl⟩ | hl
      · exact List.cons_ne_nil _ _
      · exact List.cons_ne_nil _ _
      · exact ih l hl

theorem newline_notMem_dropLast : ∀ l ∈ sourceLines cs, '\n' ∉ l.dropLast := by
  induction cs with
  | nil => exact fun l hl => absurd hl List.not_mem_nil
  | cons c cs ih =>
    rw [sourceLines]
    split
    · exact List.forall_mem_cons.2 ⟨List.not_mem_nil, ih⟩
    · rename_i hc
      intro l hl
      rcases mem_startLine hl with rfl | ⟨l', hl', rfl⟩ | hl
      · exact List.not_mem_nil
      · rw [List.dropLast_cons_of_ne_nil (sourceLine_ne_nil l' hl'), List.mem_cons, not_or]
        exact ⟨Ne.symm hc, ih l' hl'⟩
      · exact ih l hl

theorem getLast?_of_mem_dropLast : ∀ l ∈ (sourceLines cs).dropLast, l.getLast? = some '\n' := by
  induction cs with
  | nil => exact fun l hl => absurd hl List.not_mem_nil
  | cons c cs ih =>
    rw [sourceLines]
    split
    · intro l hl
      by_cases hrest : sourceLines cs = []
      · rw [hrest] at hl
        cases hl
      · rw [List.dropLast_cons_of_ne_nil hrest] at hl
        rcases List.mem_cons.1 hl with rfl | hl
        · rfl
        · exact ih l hl
    · intro l hl
      rcases mem_dropLast_startLine hl with ⟨l', hl', rfl⟩ | hl
      · rw [List.getLast?_cons, ih l' hl', Option.getD_some]
      · exact ih l hl

/-! ### Spans that adjoin -/

theorem passage_append (ls : List (List Char)) {first middle last : Nat} (hfirst : 1 ≤ first)
    (hmiddle : first ≤ middle) (hlast : middle < last) :
    (passage ls first middle).2 ++ (passage ls (middle + 1) last).2 = (passage ls first last).2 := by
  -- after the same text before them, both are the lines up to the last
  have hstart : (passage ls first middle).1 = (passage ls first last).1 := rfl
  have hnext : (passage ls (middle + 1) last).1 = (ls.take middle).flatten := rfl
  refine List.append_cancel_left (?_ : (passage ls first last).1 ++ _ = _ ++ _)
  calc (passage ls first last).1 ++
        ((passage ls first middle).2 ++ (passage ls (middle + 1) last).2)
      = (ls.take middle).flatten ++ (passage ls (middle + 1) last).2 := by
        rw [← hstart, ← List.append_assoc, append_passage ls hfirst hmiddle]
    _ = (ls.take last).flatten := by rw [← hnext, append_passage ls (by omega) hlast]
    _ = (passage ls first last).1 ++ (passage ls first last).2 := by
        rw [append_passage ls hfirst (by omega)]

theorem lineSpan_append (cs : List Char) {first middle last : Int} (hfirst : 1 ≤ first)
    (hmiddle : first ≤ middle) (hlast : middle < last) :
    lineSpan cs first middle ++ lineSpan cs (middle + 1) last = lineSpan cs first last := by
  obtain ⟨i, rfl⟩ := Int.eq_ofNat_of_zero_le (show 0 ≤ first by omega)
  obtain ⟨j, rfl⟩ := Int.eq_ofNat_of_zero_le (show 0 ≤ middle by omega)
  obtain ⟨k, rfl⟩ := Int.eq_ofNat_of_zero_le (show 0 ≤ last by omega)
  have hnext : lineSpan cs (j + 1) k = (passage (sourceLines cs) (j + 1) k).2 :=
    lineSpan_eq cs (show 1 ≤ j + 1 by omega) (show j + 1 ≤ k by omega)
  rw [lineSpan_eq cs (by omega) (by omega), hnext, lineSpan_eq cs (by omega) (by omega),
    passage_append (sourceLines cs) (by omega) (by omega) (by omega)]

theorem lineSpan_line {k : Nat} (h : k < (sourceLines cs).length) :
    lineSpan cs (k + 1) (k + 1) = (sourceLines cs)[k] := by
  have hspan : lineSpan cs (k + 1) (k + 1) = (passage (sourceLines cs) (k + 1) (k + 1)).2 :=
    lineSpan_eq cs (show 1 ≤ k + 1 by omega) (Nat.le_refl _)
  have hone : k + 1 + 1 - (k + 1) = 0 + 1 := by omega
  rw [hspan, passage, hone, Nat.add_sub_cancel, List.drop_eq_getElem_cons h, List.take_succ_cons,
    List.take_zero, List.flatten_singleton]

theorem lineSpan_of_length_le {last : Int} (h : ((sourceLines cs).length : Int) ≤ last) :
    lineSpan cs 1 last = cs := by
  have hall := flatten_sourceLines cs
  by_cases hlast : 1 ≤ last
  · obtain ⟨n, rfl⟩ := Int.eq_ofNat_of_zero_le (show 0 ≤ last by omega)
    have hspan : lineSpan cs 1 n = (passage (sourceLines cs) 1 n).2 :=
      lineSpan_eq cs (Nat.le_refl 1) (show 1 ≤ n by omega)
    have hcut := append_passage (sourceLines cs) (Nat.le_refl 1) (show 1 ≤ n by omega)
    rw [List.take_of_length_le (by omega), hall] at hcut
    rw [hspan]
    exact hcut
  · -- a text without lines is empty
    have hnone : sourceLines cs = [] := List.eq_nil_of_length_eq_zero (by omega)
    rw [hnone, List.flatten_nil] at hall
    rw [lineSpan, if_pos (.inr (by omega)), hall]

/-- A span is empty exactly if its bounds leave no lines, or none of the lines there are. -/
theorem lineSpan_eq_nil_iff (cs : List Char) (first last : Int) :
    lineSpan cs first last = [] ↔
      first < 1 ∨ last < first ∨ ((sourceLines cs).length : Int) < first := by
  constructor
  · intro hnil
    by_contra hsome
    obtain ⟨k, rfl⟩ : ∃ k : Nat, first = k + 1 := ⟨(first - 1).toNat, by omega⟩
    have hk : k < (sourceLines cs).length := by omega
    have hline : lineSpan cs (k + 1) (k + 1) = [] := by
      rcases Int.lt_or_eq_of_le (show ((k : Int) + 1) ≤ last by omega) with hlt | rfl
      · rw [← lineSpan_append cs (by omega) (Int.le_refl _) hlt] at hnil
        exact (List.append_eq_nil_iff.1 hnil).1
      · exact hnil
    rw [lineSpan_line hk] at hline
    exact sourceLine_ne_nil _ (List.getElem_mem hk) hline
  · intro hnone
    rw [lineSpan]
    split
    · rfl
    · dsimp only
      rw [List.drop_of_length_le (by omega), List.take_nil, List.flatten_nil]

/-- The lines of a text make it up, none is empty, and each but the last ends with its only line
feed, which the last may lack; spans of lines that adjoin make up the span of them all, that of one
line is the line, that of all lines is the text, and spans are empty where there are no lines. -/
theorem text_cut_into_lines (cs : List Char) :
    (sourceLines cs).flatten = cs ∧
    (∀ l ∈ (sourceLines cs).dropLast, l.getLast? = some '\n') ∧
    (∀ l ∈ sourceLines cs, l ≠ [] ∧ '\n' ∉ l.dropLast) ∧
    (∀ a b c : Int, 1 ≤ a → a ≤ b → b < c →
      lineSpan cs a b ++ lineSpan cs (b + 1) c = lineSpan cs a c) ∧
    (∀ (k : Nat) (h : k < (sourceLines cs).length),
      lineSpan cs (k + 1) (k + 1) = (sourceLines cs)[k]) ∧
    (∀ n : Int, (sourceLines cs).length ≤ n → lineSpan cs 1 n = cs) ∧
    ∀ a b : Int, lineSpan cs a b = [] ↔ a < 1 ∨ b < a ∨ (sourceLines cs).length < a := by
  refine ⟨flatten_sourceLines cs, getLast?_of_mem_dropLast,
    fun l hl => ⟨sourceLine_ne_nil l hl, newline_notMem_dropLast l hl⟩, ?_, ?_, ?_, ?_⟩
  · exact fun a b c ha hab hbc => lineSpan_append cs ha hab hbc
  · exact fun k h => lineSpan_line h
  · exact fun n h => lineSpan_of_length_le h
  · exact lineSpan_eq_nil_iff cs

/-- A text with an empty line in it, and no line feed at its end. -/
def gappedText : List Char := "a\r\n\nb".toList

theorem text_cut_into_lines_gappedText :
    (∀ l ∈ [['a', '\r', '\n'], ['\n']], l.getLast? = some '\n') ∧
    lineSpan gappedText 1 2 ++ lineSpan gappedText 3 7 = lineSpan gappedText 1 7 ∧
    lineSpan gappedText 2 2 = ['\n'] ∧ lineSpan gappedText 1 3 = gappedText ∧
    lineSpan gappedText 4 9 = [] ∧ lineSpan gappedText 3 9 ≠ [] := by
  obtain ⟨-, hends, -, hadjoin, hline, hall, hnone⟩ := text_cut_into_lines gappedText
  refine ⟨hends, hadjoin 1 2 7 (by decide) (by decide) (by decide), hline 1 (by decide),
    hall 3 (by decide), (hnone 4 9).2 (by decide), fun h => ?_⟩
  exact absurd ((hnone 3 9).1 h) (by decide)

end Docent
