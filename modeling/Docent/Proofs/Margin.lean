import Docent.Proofs.Steps
import Docent.Skeleton
import Docent.Text.Margin

/-!
# Margins put before lines and taken away again

A skeleton shows a documentation text with four blanks before each of its lines but the first, and
before that one too when the skeleton stands in a body. Main statement: the text of a documentation
string whose lines were shown so is what it would have been without.
-/

namespace Docent

/-! ### Lines -/

namespace Text

theorem joinLines_cons (l : List Char) {ls : List (List Char)} (h : ls ≠ []) :
    joinLines (l :: ls) = l ++ '\n' :: joinLines ls := by
  obtain ⟨m, ls, rfl⟩ := List.exists_cons_of_ne_nil h
  rfl

theorem joinLines_eq_intercalate (ls : List (List Char)) :
    joinLines ls = ['\n'].intercalate ls := by
  induction ls with
  | nil => rfl
  | cons l ls ih =>
    cases ls with
    | nil => simp [joinLines, List.intercalate]
    | cons m ls =>
      rw [joinLines_cons l (List.cons_ne_nil m ls), ih]
      simp [List.intercalate]

theorem joinLines_pieces (cs : List Char) : joinLines (pieces '\n' cs) = cs := by
  rw [joinLines_eq_intercalate, pieces_eq_splitOn]
  exact List.intercalate_splitOn '\n'

theorem pieces_joinLines {ls : List (List Char)} (hne : ls ≠ []) (h : ∀ l ∈ ls, '\n' ∉ l) :
    pieces '\n' (joinLines ls) = ls := by
  rw [joinLines_eq_intercalate, pieces_eq_splitOn]
  exact List.splitOn_intercalate '\n' h hne

theorem mem_joinLines {c : Char} {ls : List (List Char)} (h : c ∈ joinLines ls) :
    c = '\n' ∨ ∃ l ∈ ls, c ∈ l := by
  induction ls with
  | nil => cases h
  | cons l ls ih =>
    cases ls with
    | nil => exact .inr ⟨l, List.mem_singleton_self l, h⟩
    | cons m ls =>
      rw [joinLines_cons l (List.cons_ne_nil m ls), List.mem_append, List.mem_cons] at h
      rcases h with h | rfl | h
      · exact .inr ⟨l, List.mem_cons_self, h⟩
      · exact .inl rfl
      · exact (ih h).imp_right fun ⟨k, hk, hc⟩ => ⟨k, List.mem_cons_of_mem l hk, hc⟩

theorem getLast?_joinLines (ls : List (List Char)) {l : List Char} (hl : l ≠ []) :
    (joinLines (ls ++ [l])).getLast? = l.getLast? := by
  induction ls with
  | nil => rfl
  | cons k ls ih =>
    rw [List.cons_append, joinLines_cons k (List.append_ne_nil_of_right_ne_nil ls (by simp)),
      List.getLast?_append, List.getLast?_cons, ih]
    rw [List.getLast?_eq_some_getLast hl]
    rfl

/-! ### Tabs -/

theorem tab_notMem_expandTabs (col : Nat) (cs : List Char) : '\t' ∉ expandTabs col cs := by
  induction cs generalizing col with
  | nil => exact List.not_mem_nil
  | cons c cs ih =>
    rw [expandTabs]
    split
    · rw [List.mem_append, not_or]
      exact ⟨fun h => absurd (List.eq_of_mem_replicate h) (by decide), ih _⟩
    · rename_i hc
      split
      all_goals
        rw [List.mem_cons, not_or]
        exact ⟨Ne.symm hc, ih _⟩

theorem expandTabs_of_notMem {cs : List Char} (h : '\t' ∉ cs) (col : Nat) :
    expandTabs col cs = cs := by
  induction cs generalizing col with
  | nil => rfl
  | cons c cs ih =>
    rw [List.mem_cons, not_or] at h
    rw [expandTabs, if_neg (Ne.symm h.1), ih h.2, ih h.2, ite_self]

/-! ### What is left without a margin -/

theorem mem_trimmed {ls : List (List Char)} {l : List Char} (h : l ∈ dedent.trimmed ls) : l ∈ ls := by
  have hdrop := (List.dropWhile_suffix _).mem h
  have hreverse := (List.dropWhile_suffix _).mem (List.mem_reverse.1 hdrop)
  exact List.mem_reverse.1 hreverse

theorem trimmed_eq_nil_or (ls : List (List Char)) :
    dedent.trimmed ls = [] ∨ ∃ ks l, dedent.trimmed ls = ks ++ [l] ∧ l ≠ [] := by
  rcases hrest : ls.reverse.dropWhile (·.isEmpty) with _ | ⟨l, ks⟩
  · exact .inl (by rw [dedent.trimmed, hrest]; rfl)
  · have hl : l.isEmpty = false := by
      have hhead := List.head?_dropWhile_not (·.isEmpty) ls.reverse
      rw [hrest] at hhead
      exact hhead
    have hlast : [l].dropWhile (·.isEmpty) = [l] := by rw [List.dropWhile_cons, hl]; rfl
    refine .inr ⟨ks.reverse.dropWhile (·.isEmpty), l, ?_, by simpa using hl⟩
    rw [dedent.trimmed, hrest, List.reverse_cons, List.dropWhile_append, hlast]
    split
    · rename_i hempty
      rw [List.isEmpty_iff.1 hempty, List.nil_append]
    · rfl

theorem exists_lines_dedent (cs : List Char) : ∃ ls, dedent cs = joinLines (dedent.trimmed ls) ∧
    ∀ l ∈ ls, ∃ p ∈ pieces '\n' (expandTabs 0 cs), l <:+ p := by
  rw [dedent]
  rcases hpieces : pieces '\n' (expandTabs 0 cs) with _ | ⟨first, rest⟩
  · exact absurd hpieces (pieces_ne_nil _ _)
  · refine ⟨_, rfl, fun l hl => ?_⟩
    rcases List.mem_cons.1 hl with rfl | hl
    · exact ⟨first, List.mem_cons_self, List.dropWhile_suffix _⟩
    · obtain ⟨p, hp, rfl⟩ := List.mem_map.1 hl
      exact ⟨p, List.mem_cons_of_mem _ hp, List.drop_suffix _ _⟩

theorem tab_notMem_dedent (cs : List Char) : '\t' ∉ dedent cs := by
  intro hmem
  obtain ⟨ls, hls, hpieces⟩ := exists_lines_dedent cs
  rw [hls] at hmem
  rcases mem_joinLines hmem with heq | ⟨l, hl, htab⟩
  · exact absurd heq (by decide)
  · obtain ⟨p, hp, hsuffix⟩ := hpieces l (mem_trimmed hl)
    have htab := (exists_mem_pieces_iff (by decide) _).1 ⟨p, hp, hsuffix.mem htab⟩
    exact tab_notMem_expandTabs 0 cs htab

theorem getLast?_dedent (cs : List Char) : (dedent cs).getLast? ≠ some '\n' := by
  intro hlast
  obtain ⟨ls, hls, hpieces⟩ := exists_lines_dedent cs
  rw [hls] at hlast
  rcases trimmed_eq_nil_or ls with hnil | ⟨ks, l, htrimmed, hl⟩
  · rw [hnil] at hlast
    cases hlast
  · rw [htrimmed, getLast?_joinLines ks hl] at hlast
    have hmem : l ∈ dedent.trimmed ls := by rw [htrimmed]; exact List.mem_concat_self
    obtain ⟨p, hp, hsuffix⟩ := hpieces l (mem_trimmed hmem)
    exact not_mem_of_mem_pieces hp (hsuffix.mem (List.mem_of_getLast? hlast))

/-! ### Lines that hang below the first one -/

def margin : List Char := List.replicate 4 ' '

/-- A line behind the margin, unless it is empty. -/
def pad (l : List Char) : List Char := if l.isEmpty then [] else margin ++ l

/-- A text whose lines after the first one stand behind the margin. -/
def hang (cs : List Char) : List Char :=
  match pieces '\n' cs with
  | [] => []
  | first :: rest => joinLines (first :: rest.map pad)

/-- A text whose lines are told by line feeds and show something unless they are empty, which the
last one of several is not. -/
structure Lined (cs : List Char) : Prop where
  ends : ∀ c ∈ cs, isLineEnd c = true → c = '\n'
  tab : '\t' ∉ cs
  blank : ∀ l ∈ pieces '\n' cs, isBlankLine l = true → l = []
  last : cs.getLast? ≠ some '\n'

theorem mem_pad {c : Char} {l : List Char} (h : c ∈ pad l) : c = ' ' ∨ c ∈ l := by
  rw [pad] at h
  split at h
  · cases h
  · exact (List.mem_append.1 h).imp_left List.eq_of_mem_replicate

theorem pad_of_ne_nil {l : List Char} (h : l ≠ []) : pad l = margin ++ l :=
  if_neg (by simpa using h)

theorem isBlank_of_mem_margin {c : Char} (h : c ∈ margin) : isBlank c = true := by
  rw [List.eq_of_mem_replicate h]
  rfl

theorem isBlankLine_pad (l : List Char) : isBlankLine (pad l) = isBlankLine l := by
  rw [pad]
  split
  · rename_i hempty
    rw [List.isEmpty_iff.1 hempty]
  · rw [isBlankLine, isBlankLine, List.all_append, Bool.and_eq_right_iff_imp]
    intro
    exact List.all_eq_true.2 fun c hc => isBlank_of_mem_margin hc

theorem indentation?_pad (l : List Char) (h : isBlankLine l = true → l = []) :
    indentation? (pad l) = (indentation? l).map (4 + ·) := by
  by_cases hl : l = []
  · subst hl
    rfl
  · have hno : l.all isBlank = false := Bool.eq_false_iff.2 fun hblank => hl (h hblank)
    have hpad : (pad l).all isBlank = false := (isBlankLine_pad l).trans hno
    rw [indentation?, indentation?, hpad, hno, pad_of_ne_nil hl,
      List.takeWhile_append_of_pos fun c hc => isBlank_of_mem_margin hc, List.length_append]
    rfl

theorem least?_map_add (k : Nat) (ns : List Nat) : least? (ns.map (k + ·)) = (least? ns).map (k + ·) := by
  induction ns with
  | nil => rfl
  | cons n ns ih =>
    rw [List.map_cons, least?, least?, ih]
    cases least? ns with
    | none => rfl
    | some m => exact congrArg some (by rw [Nat.add_min_add_left])

theorem least?_eq_none {ns : List Nat} (h : least? ns = none) : ns = [] := by
  cases ns with
  | nil => rfl
  | cons n ns =>
    rw [least?] at h
    cases hleast : least? ns <;> rw [hleast] at h <;> cases h

theorem drop_pad (m : Nat) (l : List Char) : (pad l).drop (4 + m) = l.drop m := by
  rw [pad]
  split
  · rename_i hempty
    rw [List.isEmpty_iff.1 hempty, List.drop_nil, List.drop_nil]
  · show (margin ++ l).drop (margin.length + m) = l.drop m
    exact List.drop_length_add_append m

theorem map_drop_pad {rest : List (List Char)} (h : ∀ l ∈ rest, isBlankLine l = true → l = []) :
    (rest.map pad).map (·.drop ((least? ((rest.map pad).filterMap indentation?)).getD 0)) =
      rest.map (·.drop ((least? (rest.filterMap indentation?)).getD 0)) := by
  have hindentation : (rest.map pad).filterMap indentation? =
      (rest.filterMap indentation?).map (4 + ·) := by
    induction rest with
    | nil => rfl
    | cons l rest ih =>
      rw [List.map_cons, List.filterMap_cons, List.filterMap_cons,
        indentation?_pad l (h l List.mem_cons_self), ih fun k hk => h k (List.mem_cons_of_mem l hk)]
      cases indentation? l <;> rfl
  rw [hindentation, least?_map_add, List.map_map]
  refine List.map_congr_left fun l hl => ?_
  cases hleast : least? (rest.filterMap indentation?) with
  | some m => exact drop_pad m l
  | none =>
    -- no line shows anything, so that all of them are empty
    have hl' : indentation? l = none := List.filterMap_eq_nil_iff.1 (least?_eq_none hleast) l hl
    have hblank : isBlankLine l = true := by
      rw [indentation?] at hl'
      split at hl'
      · assumption
      · cases hl'
    rw [h l hl hblank]
    rfl

theorem exists_pieces (cs : List Char) : ∃ first rest, pieces '\n' cs = first :: rest :=
  List.exists_cons_of_ne_nil (pieces_ne_nil '\n' cs)

theorem hang_eq {cs first : List Char} {rest : List (List Char)} (h : pieces '\n' cs = first :: rest) :
    hang cs = joinLines (first :: rest.map pad) := by
  rw [hang, h]

theorem pieces_hang {cs first : List Char} {rest : List (List Char)}
    (h : pieces '\n' cs = first :: rest) : pieces '\n' (hang cs) = first :: rest.map pad := by
  rw [hang_eq h]
  refine pieces_joinLines (List.cons_ne_nil _ _) fun l hl => ?_
  have hno : ∀ p ∈ first :: rest, '\n' ∉ p := fun p hp => not_mem_of_mem_pieces (h ▸ hp)
  rcases List.mem_cons.1 hl with rfl | hl
  · exact hno l List.mem_cons_self
  · obtain ⟨p, hp, rfl⟩ := List.mem_map.1 hl
    intro hmem
    rcases mem_pad hmem with heq | hmem
    · exact absurd heq (by decide)
    · exact hno p (List.mem_cons_of_mem _ hp) hmem

theorem mem_hang {c : Char} {cs : List Char} (h : c ∈ hang cs) : c = ' ' ∨ c = '\n' ∨ c ∈ cs := by
  obtain ⟨first, rest, hpieces⟩ := exists_pieces cs
  have hmem {l : List Char} (hl : l ∈ first :: rest) (hc : c ∈ l) (hne : c ≠ '\n') : c ∈ cs :=
    (exists_mem_pieces_iff hne cs).1 ⟨l, hpieces ▸ hl, hc⟩
  rw [hang_eq hpieces] at h
  by_cases hne : c = '\n'
  · exact .inr (.inl hne)
  · obtain ⟨l, hl, hc⟩ := (mem_joinLines h).resolve_left hne
    rcases List.mem_cons.1 hl with rfl | hl
    · exact .inr (.inr (hmem List.mem_cons_self hc hne))
    · obtain ⟨p, hp, rfl⟩ := List.mem_map.1 hl
      exact (mem_pad hc).imp_right fun hc => .inr (hmem (List.mem_cons_of_mem _ hp) hc hne)

namespace Lined

variable {cs : List Char}

theorem ends_of_mem_pieces (h : Lined cs) {l : List Char} (hl : l ∈ pieces '\n' cs) :
    ∀ c ∈ l, isLineEnd c = false := by
  intro c hc
  have hnewline : c ≠ '\n' := by
    rintro rfl
    exact not_mem_of_mem_pieces hl hc
  refine Bool.eq_false_iff.2 fun hend => hnewline (h.ends c ?_ hend)
  exact (exists_mem_pieces_iff hnewline cs).1 ⟨l, hl, hc⟩

theorem ne_nil_of_last (h : Lined cs) {first l : List Char} {mid : List (List Char)}
    (hpieces : pieces '\n' cs = first :: (mid ++ [l])) : l ≠ [] := by
  rintro rfl
  have hcs : cs = joinLines (first :: mid ++ [[]]) := by
    rw [← joinLines_pieces cs, hpieces, List.cons_append]
  have hlines (ls : List (List Char)) (k : List Char) : (joinLines (k :: ls ++ [[]])).getLast? = some '\n' := by
    induction ls generalizing k with
    | nil => simp [joinLines]
    | cons m ls ih =>
      rw [List.cons_append, joinLines_cons k (by simp), List.getLast?_append, List.getLast?_cons, ih]
      rfl
  exact h.last (by rw [hcs, hlines])

theorem getLast?_hang (h : Lined cs) : (hang cs).getLast? = cs.getLast? := by
  obtain ⟨first, rest, hpieces⟩ := exists_pieces cs
  rcases List.eq_nil_or_concat rest with rfl | ⟨mid, l, rfl⟩
  · rw [hang_eq hpieces, ← joinLines_pieces cs, hpieces]
    rfl
  · rw [List.concat_eq_append] at hpieces
    have hl := h.ne_nil_of_last hpieces
    have hpad : pad l ≠ [] := by
      rw [pad_of_ne_nil hl]
      simp [hl]
    have hcs : cs = joinLines ((first :: mid) ++ [l]) := by
      rw [← joinLines_pieces cs, hpieces, List.cons_append]
    rw [hang_eq hpieces, List.map_append, List.map_singleton, ← List.cons_append,
      getLast?_joinLines _ hpad, hcs, getLast?_joinLines _ hl, pad_of_ne_nil hl,
      List.getLast?_append, List.getLast?_eq_some_getLast hl]
    rfl

theorem hang (h : Lined cs) : Lined (hang cs) where
  ends c hc hend := by
    rcases mem_hang hc with rfl | rfl | hc
    · cases hend
    · rfl
    · exact h.ends c hc hend
  tab hmem := by
    rcases mem_hang hmem with heq | heq | hmem
    · exact absurd heq (by decide)
    · exact absurd heq (by decide)
    · exact h.tab hmem
  blank l hl hblank := by
    obtain ⟨first, rest, hpieces⟩ := exists_pieces cs
    rw [pieces_hang hpieces] at hl
    rcases List.mem_cons.1 hl with rfl | hl
    · exact h.blank l (hpieces ▸ List.mem_cons_self) hblank
    · obtain ⟨p, hp, rfl⟩ := List.mem_map.1 hl
      rw [isBlankLine_pad] at hblank
      rw [h.blank p (hpieces ▸ List.mem_cons_of_mem _ hp) hblank]
      rfl
  last := by
    rw [h.getLast?_hang]
    exact h.last

/-- The margin before hanging lines is taken away with the margin of the text. -/
theorem dedent_hang (h : Lined cs) : dedent (Text.hang cs) = dedent cs := by
  obtain ⟨first, rest, hpieces⟩ := exists_pieces cs
  have hrest : ∀ l ∈ rest, isBlankLine l = true → l = [] := fun l hl =>
    h.blank l (hpieces ▸ List.mem_cons_of_mem _ hl)
  rw [dedent, dedent, expandTabs_of_notMem h.tab, expandTabs_of_notMem h.hang.tab, hpieces,
    pieces_hang hpieces]
  dsimp only
  rw [map_drop_pad hrest]

end Lined

/-! ### Indented texts -/

theorem isBlankLine_append_newline (l : List Char) : isBlankLine (l ++ ['\n']) = isBlankLine l := by
  rw [isBlankLine, List.all_append]
  exact Bool.and_true _

theorem displayLines_cons {c : Char} (hc : isLineEnd c = false) (cs : List Char) :
    displayLines (c :: cs) = startLine c (displayLines cs) := by
  rw [displayLines]
  · rw [if_neg (by rw [hc]; exact Bool.false_ne_true)]
    cases displayLines cs <;> rfl
  · rintro cs' rfl
    cases hc

theorem displayLines_append_newline {l : List Char} (hl : ∀ c ∈ l, isLineEnd c = false)
    (cs : List Char) : displayLines (l ++ '\n' :: cs) = (l ++ ['\n']) :: displayLines cs := by
  induction l with
  | nil => rfl
  | cons c l ih =>
    obtain ⟨hc, hl⟩ := List.forall_mem_cons.1 hl
    rw [List.cons_append, displayLines_cons hc, ih hl]
    rfl

theorem displayLines_of_no_end {l : List Char} (hne : l ≠ []) (hl : ∀ c ∈ l, isLineEnd c = false) :
    displayLines l = [l] := by
  induction l with
  | nil => exact absurd rfl hne
  | cons c l ih =>
    obtain ⟨hc, hl⟩ := List.forall_mem_cons.1 hl
    rw [displayLines_cons hc]
    cases l with
    | nil => rfl
    | cons d l =>
      rw [ih (List.cons_ne_nil d l) hl]
      rfl

end Text

open Text

theorem indented_line {l : List Char} (hl : ∀ c ∈ l, isLineEnd c = false)
    (hblank : isBlankLine l = true → l = []) : indented l = pad l := by
  by_cases hne : l = []
  · subst hne
    rfl
  · rw [indented, displayLines_of_no_end hne hl, List.flatMap_singleton,
      if_neg fun h => hne (hblank h), pad_of_ne_nil hne]
    rfl

theorem indented_append_newline {l : List Char} (hl : ∀ c ∈ l, isLineEnd c = false)
    (hblank : isBlankLine l = true → l = []) (cs : List Char) :
    indented (l ++ '\n' :: cs) = pad l ++ '\n' :: indented cs := by
  rw [indented, displayLines_append_newline hl, List.flatMap_cons, isBlankLine_append_newline, pad]
  by_cases hne : l = []
  · subst hne
    rfl
  · rw [if_neg fun h => hne (hblank h), if_neg (by simpa using hne)]
    simp [margin, indented]

end Docent
