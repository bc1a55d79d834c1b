import Docent.Grammar.Indented.Token
import Docent.SourceText
import Mathlib.Data.List.Chain

/-!
# Two ways to count lines

A source text is cut into lines at its line feeds; an indentation-structured one is read with a
carriage return as a line end too. Main statement: the first `n` lines are the same text either way
unless one of them ends with a carriage return alone and there are more of them.
-/

namespace Docent

/-! ### Lines that end with a line feed -/

theorem flatten_startLine (c : Char) (ls : List (List Char)) :
    (startLine c ls).flatten = c :: ls.flatten := by
  cases ls <;> rfl

theorem take_startLine (c : Char) (ls : List (List Char)) (n : Nat) :
    (startLine c ls).take (n + 1) = startLine c (ls.take (n + 1)) := by
  cases ls with
  | nil => rw [startLine, List.take_succ_cons, List.take_nil, List.take_nil, startLine]
  | cons l ls => rfl

theorem flatten_take_startLine (c : Char) (ls : List (List Char)) (n : Nat) :
    ((startLine c ls).take (n + 1)).flatten = c :: (ls.take (n + 1)).flatten := by
  rw [take_startLine, flatten_startLine]

theorem mem_startLine {c : Char} {l : List Char} {ls : List (List Char)} (h : l ∈ startLine c ls) :
    l = [c] ∨ (∃ l' ∈ ls, l = c :: l') ∨ l ∈ ls := by
  cases ls with
  | nil => exact .inl (List.mem_singleton.1 h)
  | cons l' ls =>
    rcases List.mem_cons.1 h with rfl | h
    · exact .inr (.inl ⟨l', List.mem_cons_self, rfl⟩)
    · exact .inr (.inr (List.mem_cons_of_mem l' h))

/-- The first `k` lines of a text lie in a beginning of it that has `k` line feeds. -/
theorem flatten_take_sourceLines_prefix {k : Nat} {before : List Char} (rest : List Char)
    (h : k ≤ before.count '\n') :
    ((sourceLines (before ++ rest)).take k).flatten <+: before := by
  induction before generalizing k with
  | nil =>
    obtain rfl : k = 0 := by simpa using h
    exact List.nil_prefix
  | cons c before ih =>
    cases k with
    | zero => exact List.nil_prefix
    | succ k =>
      rw [List.cons_append, sourceLines]
      split
      · rename_i hc
        rw [hc, List.count_cons_self] at h
        rw [hc, List.take_succ_cons, List.flatten_cons, List.singleton_append,
          List.prefix_cons_inj]
        exact ih (by omega)
      · rename_i hc
        rw [List.count_cons_of_ne hc] at h
        rw [flatten_take_startLine, List.prefix_cons_inj]
        exact ih h

/-- A beginning of a text that has fewer than `k` line feeds lies in the first `k` lines. -/
theorem prefix_flatten_take_sourceLines {k : Nat} {before : List Char} (rest : List Char)
    (h : before.count '\n' < k) :
    before <+: ((sourceLines (before ++ rest)).take k).flatten := by
  induction before generalizing k with
  | nil => exact List.nil_prefix
  | cons c before ih =>
    obtain ⟨k, rfl⟩ : ∃ j, k = j + 1 := ⟨k - 1, by omega⟩
    rw [List.cons_append, sourceLines]
    split
    · rename_i hc
      rw [hc, List.count_cons_self] at h
      rw [hc, List.take_succ_cons, List.flatten_cons, List.singleton_append, List.prefix_cons_inj]
      exact ih (by omega)
    · rename_i hc
      rw [List.count_cons_of_ne hc] at h
      rw [flatten_take_startLine, List.prefix_cons_inj]
      exact ih h

theorem flatten_take_sourceLines_eq (k : Nat) (cs : List Char) :
    ((sourceLines cs).take k).flatten = cs ∨
      ((sourceLines cs).take k).flatten.count '\n' = k := by
  induction cs generalizing k with
  | nil => exact .inl (by simp [sourceLines])
  | cons c cs ih =>
    cases k with
    | zero => exact .inr rfl
    | succ k =>
      rw [sourceLines]
      split
      · rename_i hc
        rw [hc, List.take_succ_cons, List.flatten_cons, List.singleton_append,
          List.count_cons_self]
        rcases ih k with h | h
        · exact .inl (by rw [h])
        · exact .inr (by rw [h])
      · rename_i hc
        rw [flatten_take_startLine, List.count_cons_of_ne hc]
        rcases ih (k + 1) with h | h
        · exact .inl (by rw [h])
        · exact .inr h

/-! ### Lines with any line end -/

/-- The lines of a text, each with its line end: a carriage return and a line feed, or either of
them alone. -/
def universalLines : List Char → List (List Char)
  | [] => []
  | '\r' :: '\n' :: cs => ['\r', '\n'] :: universalLines cs
  | c :: cs =>
    if c = '\r' ∨ c = '\n' then [c] :: universalLines cs else startLine c (universalLines cs)

/-- Whether a line ends with a carriage return alone. -/
def EndsInReturn (l : List Char) : Prop := l.getLast? = some '\r'

theorem flatten_universalLines (cs : List Char) : (universalLines cs).flatten = cs := by
  fun_induction universalLines cs with
  | case1 => rfl
  | case2 cs ih => rw [List.flatten_cons, ih]; rfl
  | case3 c cs _ _ ih => rw [List.flatten_cons, ih, List.singleton_append]
  | case4 c cs _ _ ih => rw [flatten_startLine, ih]

/-- A line is a body without line ends and at most one line end, and is not empty. -/
def IsLine (l : List Char) : Prop :=
  ∃ body : List Char, '\r' ∉ body ∧ '\n' ∉ body ∧
    (l = body ++ ['\r', '\n'] ∨ l = body ++ ['\r'] ∨ l = body ++ ['\n'] ∨ l = body ∧ body ≠ [])

namespace IsLine

theorem cons {c : Char} {l : List Char} (hc : ¬ (c = '\r' ∨ c = '\n')) (h : IsLine l) :
    IsLine (c :: l) := by
  obtain ⟨body, hr, hn, hl⟩ := h
  rw [not_or] at hc
  refine ⟨c :: body, ?_, ?_, ?_⟩
  · rw [List.mem_cons, not_or]
    exact ⟨Ne.symm hc.1, hr⟩
  · rw [List.mem_cons, not_or]
    exact ⟨Ne.symm hc.2, hn⟩
  · rcases hl with rfl | rfl | rfl | ⟨rfl, -⟩
    · exact .inl rfl
    · exact .inr (.inl rfl)
    · exact .inr (.inr (.inl rfl))
    · exact .inr (.inr (.inr ⟨rfl, List.cons_ne_nil _ _⟩))

theorem ne_nil {l : List Char} (h : IsLine l) : l ≠ [] := by
  obtain ⟨body, -, -, rfl | rfl | rfl | ⟨rfl, hbody⟩⟩ := h
  · simp
  · simp
  · simp
  · exact hbody

theorem count_le_one {l : List Char} (h : IsLine l) : l.count '\n' ≤ 1 := by
  obtain ⟨body, -, hn, rfl | rfl | rfl | ⟨rfl, -⟩⟩ := h <;>
    simp [List.count_eq_zero_of_not_mem hn]

theorem count_of_endsInReturn {l : List Char} (h : IsLine l) (hend : EndsInReturn l) :
    l.count '\n' = 0 := by
  obtain ⟨body, hr, hn, rfl | rfl | rfl | ⟨rfl, -⟩⟩ := h
  · simp [EndsInReturn] at hend
  · simp [List.count_eq_zero_of_not_mem hn]
  · simp [EndsInReturn] at hend
  · exact absurd (List.mem_of_getLast? hend) hr

end IsLine

theorem isLine_of_mem_universalLines (cs : List Char) : ∀ l ∈ universalLines cs, IsLine l := by
  fun_induction universalLines cs with
  | case1 => exact fun l hl => absurd hl List.not_mem_nil
  | case2 cs ih =>
    exact List.forall_mem_cons.2 ⟨⟨[], List.not_mem_nil, List.not_mem_nil, .inl rfl⟩, ih⟩
  | case3 c cs _ hc ih =>
    refine List.forall_mem_cons.2 ⟨⟨[], List.not_mem_nil, List.not_mem_nil, .inr ?_⟩, ih⟩
    rcases hc with rfl | rfl
    · exact .inl rfl
    · exact .inr (.inl rfl)
  | case4 c cs _ hc ih =>
    intro l hl
    rcases mem_startLine hl with rfl | ⟨l', hl', rfl⟩ | hl
    · rw [not_or] at hc
      refine ⟨[c], ?_, ?_, .inr (.inr (.inr ⟨rfl, List.cons_ne_nil _ _⟩))⟩
      · exact fun h => hc.1 (List.mem_singleton.1 h).symm
      · exact fun h => hc.2 (List.mem_singleton.1 h).symm
    · exact (ih l' hl').cons hc
    · exact ih l hl

/-! ### Where the two agree -/

theorem length_sourceLines_le (cs : List Char) :
    (sourceLines cs).length ≤ (universalLines cs).length := by
  have hstart (c : Char) (ls : List (List Char)) : (startLine c ls).length = max 1 ls.length := by
    cases ls with
    | nil => rfl
    | cons l ls => simp [startLine]
  fun_induction universalLines cs with
  | case1 => exact Nat.le_refl 0
  | case2 cs ih =>
    rw [sourceLines, if_neg (by decide), sourceLines, if_pos rfl]
    exact Nat.succ_le_succ ih
  | case3 c cs _ hc ih =>
    rw [sourceLines]
    split
    · exact Nat.succ_le_succ ih
    · rw [hstart, List.length_cons]
      omega
  | case4 c cs _ hc ih =>
    rw [sourceLines, if_neg fun h => hc (.inr h), hstart, hstart]
    omega

theorem not_endsInReturn_of_startLine {c : Char} {ls : List (List Char)}
    (h : ∀ l ∈ startLine c ls, ¬ EndsInReturn l) : ∀ l ∈ ls, ¬ EndsInReturn l := by
  cases ls with
  | nil => exact fun l hl => absurd hl List.not_mem_nil
  | cons l ls =>
    rw [startLine, List.forall_mem_cons] at h
    refine List.forall_mem_cons.2 ⟨fun hend => h.1 ?_, h.2⟩
    rw [EndsInReturn, List.getLast?_cons, hend]
    rfl

theorem take_sourceLines_of_no_return {n : Nat} {cs : List Char}
    (h : ∀ l ∈ (universalLines cs).take n, ¬ EndsInReturn l) :
    (sourceLines cs).take n = (universalLines cs).take n := by
  fun_induction universalLines cs generalizing n with
  | case1 => rfl
  | case2 cs ih =>
    cases n with
    | zero => rfl
    | succ n =>
      rw [List.take_succ_cons, List.forall_mem_cons] at h
      rw [sourceLines, if_neg (by decide), sourceLines, if_pos rfl, startLine,
        List.take_succ_cons, List.take_succ_cons, ih h.2]
  | case3 c cs _ hc ih =>
    cases n with
    | zero => rfl
    | succ n =>
      rw [List.take_succ_cons, List.forall_mem_cons] at h
      rcases hc with rfl | rfl
      · exact absurd rfl h.1
      · rw [sourceLines, if_pos rfl, List.take_succ_cons, List.take_succ_cons, ih h.2]
  | case4 c cs _ hc ih =>
    cases n with
    | zero => rfl
    | succ n =>
      rw [take_startLine] at h
      rw [sourceLines, if_neg fun hn => hc (.inr hn), take_startLine, take_startLine, ih]
      exact not_endsInReturn_of_startLine h

/-- Lines have fewer line feeds than they are if one of them ends with a carriage return alone. -/
theorem count_flatten_lt {l : List Char} {ls : List (List Char)} (hls : ∀ l ∈ ls, IsLine l)
    (hl : l ∈ ls) (hend : EndsInReturn l) : ls.flatten.count '\n' < ls.length := by
  have hle (ls : List (List Char)) (hls : ∀ l ∈ ls, IsLine l) :
      ls.flatten.count '\n' ≤ ls.length := by
    induction ls with
    | nil => exact Nat.le_refl 0
    | cons l ls ih =>
      obtain ⟨hl, hls⟩ := List.forall_mem_cons.1 hls
      have hone := hl.count_le_one
      have hrest := ih hls
      rw [List.flatten_cons, List.count_append, List.length_cons]
      omega
  induction ls with
  | nil => cases hl
  | cons l' ls ih =>
    obtain ⟨hl', hlines⟩ := List.forall_mem_cons.1 hls
    rw [List.flatten_cons, List.count_append, List.length_cons]
    rcases List.mem_cons.1 hl with rfl | hl
    · have hnone := hl'.count_of_endsInReturn hend
      have hrest := hle ls hlines
      omega
    · have hone := hl'.count_le_one
      have hrest := ih hlines hl
      omega

/-- Whether the first `n` lines of a text are the same however lines are counted. -/
def LinesAgree (n : Nat) (cs : List Char) : Prop :=
  (universalLines cs).length ≤ n ∨ ∀ l ∈ (universalLines cs).take n, ¬ EndsInReturn l

/-- The first `n` lines are the same text either way exactly when there are no more lines or none
of them ends with a carriage return alone. -/
theorem flatten_take_sourceLines_eq_iff (n : Nat) (cs : List Char) :
    ((sourceLines cs).take n).flatten = ((universalLines cs).take n).flatten ↔
      LinesAgree n cs := by
  constructor
  · intro h
    by_contra hnot
    obtain ⟨hmore, hsome⟩ := not_or.1 hnot
    -- a line that ends with a carriage return alone lacks a line feed, so the first `n` lines have
    -- fewer than `n` of them
    obtain ⟨l, hl, hend⟩ : ∃ l ∈ (universalLines cs).take n, EndsInReturn l := by
      by_contra hnone
      exact hsome fun l hl hend => hnone ⟨l, hl, hend⟩
    have hlines := isLine_of_mem_universalLines cs
    have hcount := count_flatten_lt (fun l hl => hlines l (List.mem_of_mem_take hl)) hl hend
    rw [List.length_take_of_le (by omega), ← h] at hcount
    rcases flatten_take_sourceLines_eq n cs with hall | hfull
    · -- the lines that are left would have no text
      have hsplit := congrArg List.flatten (List.take_append_drop n (universalLines cs))
      rw [List.flatten_append, flatten_universalLines, ← h, hall, List.append_right_eq_self,
        List.flatten_eq_nil_iff, List.drop_eq_getElem_cons (by omega)] at hsplit
      exact (hlines _ (List.getElem_mem _)).ne_nil (hsplit _ List.mem_cons_self)
    · omega
  · rintro (hlen | hno)
    · rw [List.take_of_length_le hlen, List.take_of_length_le
        (Nat.le_trans (length_sourceLines_le cs) hlen), flatten_universalLines,
        flatten_sourceLines]
    · rw [take_sourceLines_of_no_return hno]

/-! ### Line ends as they are read -/

namespace Indented

theorem unifyLines_cons {c : Char} (h : c ≠ '\r') (cs : List Char) :
    unifyLines (c :: cs) = c :: unifyLines cs := by
  rw [unifyLines]
  · rintro _ rfl
    exact absurd rfl h
  · rintro rfl
    exact absurd rfl h

theorem unifyLines_return {cs : List Char} (h : cs.head? ≠ some '\n') :
    unifyLines ('\r' :: cs) = '\n' :: unifyLines cs := by
  rw [unifyLines]
  rintro cs' rfl
  exact h rfl

theorem unifyLines_of_notMem {cs : List Char} (h : '\r' ∉ cs) : unifyLines cs = cs := by
  induction cs with
  | nil => rfl
  | cons c cs ih =>
    rw [List.mem_cons, not_or] at h
    rw [unifyLines_cons (Ne.symm h.1), ih h.2]

theorem endsInPair_of_notMem {cs : List Char} (h : '\r' ∉ cs) : endsInPair cs = false := by
  induction cs with
  | nil => rfl
  | cons c cs ih =>
    rw [List.mem_cons, not_or] at h
    rw [endsInPair, ih h.2]
    intro hc
    exact absurd hc.symm h.1

theorem head?_ne_newline {c : Char} {cs : List Char}
    (h : ∀ cs', c = '\r' → cs = '\n' :: cs' → False) (hc : c = '\r') : cs.head? ≠ some '\n' := by
  rintro hhead
  obtain ⟨cs', rfl⟩ := List.head?_eq_some_iff.1 hhead
  exact h cs' hc rfl

theorem unifyLines_flatten_take (n : Nat) (cs : List Char) :
    unifyLines ((universalLines cs).take n).flatten =
      (((universalLines cs).take n).map unifyLines).flatten := by
  fun_induction universalLines cs generalizing n with
  | case1 => simp [unifyLines]
  | case2 cs ih =>
    cases n with
    | zero => rfl
    | succ n =>
      have hfirst : unifyLines ['\r', '\n'] = ['\n'] := rfl
      rw [List.take_succ_cons, List.flatten_cons, List.map_cons, List.flatten_cons, ← ih, hfirst]
      rfl
  | case3 c cs hpair hc ih =>
    cases n with
    | zero => rfl
    | succ n =>
      rw [List.take_succ_cons, List.flatten_cons, List.map_cons, List.flatten_cons, ← ih]
      rcases hc with rfl | rfl
      · -- the line feed after a carriage return would be in the same line
        have hsplit := congrArg List.flatten (List.take_append_drop n (universalLines cs))
        rw [List.flatten_append, flatten_universalLines] at hsplit
        refine unifyLines_return fun hhead => head?_ne_newline hpair rfl ?_
        change ((universalLines cs).take n).flatten.head? = some '\n' at hhead
        rw [← hsplit, List.head?_append, hhead, Option.some_or]
      · exact unifyLines_cons (by decide) _
  | case4 c cs _ hc ih =>
    cases n with
    | zero => rfl
    | succ n =>
      have hcr := (not_or.1 hc).1
      rw [take_startLine, flatten_startLine, unifyLines_cons hcr, ih]
      cases (universalLines cs).take (n + 1) with
      | nil => rw [startLine, List.map_singleton, unifyLines_cons hcr]; rfl
      | cons l ls => rw [startLine, List.map_cons, List.map_cons, unifyLines_cons hcr]; rfl

theorem sourceLines_unifyLines (cs : List Char) :
    sourceLines (unifyLines cs) = (universalLines cs).map unifyLines := by
  fun_induction universalLines cs with
  | case1 => rfl
  | case2 cs ih => rw [unifyLines, sourceLines, if_pos rfl, ih]; rfl
  | case3 c cs hpair hc ih =>
    rcases hc with rfl | rfl
    · rw [unifyLines_return (head?_ne_newline hpair rfl), sourceLines, if_pos rfl, ih]
      rfl
    · rw [unifyLines_cons (by decide), sourceLines, if_pos rfl, ih]
      rfl
  | case4 c cs _ hc ih =>
    have hcr := (not_or.1 hc).1
    rw [unifyLines_cons hcr, sourceLines, if_neg (not_or.1 hc).2, ih]
    cases universalLines cs with
    | nil => rw [startLine, List.map_singleton, unifyLines_cons hcr]; rfl
    | cons l ls => rw [startLine, List.map_cons, List.map_cons, unifyLines_cons hcr]; rfl

theorem universalLines_flatten_drop (n : Nat) (cs : List Char) :
    universalLines ((universalLines cs).drop n).flatten = (universalLines cs).drop n := by
  have htail (cs : List Char) :
      universalLines (universalLines cs).tail.flatten = (universalLines cs).tail := by
    fun_induction universalLines cs with
    | case1 => rfl
    | case2 cs ih => rw [List.tail_cons, flatten_universalLines]
    | case3 c cs _ _ ih => rw [List.tail_cons, flatten_universalLines]
    | case4 c cs _ _ ih =>
      have hsame : (startLine c (universalLines cs)).tail = (universalLines cs).tail := by
        cases universalLines cs <;> rfl
      rw [hsame, ih]
  induction n with
  | zero => rw [List.drop_zero, flatten_universalLines]
  | succ n ih =>
    have hnext := htail ((universalLines cs).drop n).flatten
    rwa [ih, List.tail_drop] at hnext

end Indented

/-! ### Passages -/

/-- The text of the lines from `first` to `last`, counted from one, after the text before it. -/
def passage (ls : List (List Char)) (first last : Nat) : List Char × List Char :=
  ((ls.take (first - 1)).flatten, ((ls.drop (first - 1)).take (last + 1 - first)).flatten)

theorem lineSpan_eq (cs : List Char) {first last : Nat} (hfirst : 1 ≤ first) (hlast : first ≤ last) :
    lineSpan cs first last = (passage (sourceLines cs) first last).2 := by
  have hskip : ((first : Int) - 1).toNat = first - 1 := by omega
  have htake : (last : Int).toNat - (first - 1) = last + 1 - first := by omega
  rw [lineSpan, if_neg (by omega)]
  dsimp only
  rw [hskip, htake, passage]

theorem append_passage (ls : List (List Char)) {first last : Nat} (hfirst : 1 ≤ first)
    (hlast : first ≤ last) :
    (passage ls first last).1 ++ (passage ls first last).2 = (ls.take last).flatten := by
  have hlen : first - 1 + (last + 1 - first) = last := by omega
  rw [passage, ← List.flatten_append, ← List.take_add, hlen]

/-- A passage is the same however lines are counted exactly when the lines before it and the lines
up to its last are. -/
theorem passage_eq_iff (cs : List Char) {first last : Nat} (hfirst : 1 ≤ first)
    (hlast : first ≤ last) :
    passage (sourceLines cs) first last = passage (universalLines cs) first last ↔
      LinesAgree (first - 1) cs ∧ LinesAgree last cs := by
  rw [← flatten_take_sourceLines_eq_iff, ← flatten_take_sourceLines_eq_iff,
    ← append_passage _ hfirst hlast, ← append_passage _ hfirst hlast, Prod.ext_iff]
  constructor
  · rintro ⟨hbefore, htext⟩
    exact ⟨hbefore, by rw [hbefore, htext]⟩
  · rintro ⟨hbefore, happ⟩
    have hsame : (passage (sourceLines cs) first last).1 =
        (passage (universalLines cs) first last).1 := hbefore
    rw [hsame] at happ
    exact ⟨hsame, List.append_cancel_left happ⟩

theorem unifyLines_passage (cs : List Char) (first last : Nat) :
    Indented.unifyLines (passage (universalLines cs) first last).2 =
      (passage (sourceLines (Indented.unifyLines cs)) first last).2 := by
  have hread := Indented.unifyLines_flatten_take (last + 1 - first)
    ((universalLines cs).drop (first - 1)).flatten
  rw [Indented.universalLines_flatten_drop, List.map_take, List.map_drop,
    ← Indented.sourceLines_unifyLines] at hread
  exact hread

/-- The passage of some lines is what stands on them, after what stands before it on its first line
and before what stands after it on its last one. -/
theorem split_passage {before text : List Char} (after : List Char) {first last : Nat}
    (hfirst : 1 ≤ first) (hbefore : first ≤ 1 + before.count '\n') (hlast : last = 1 + (before ++ text).count '\n') :
    ∃ start more, (passage (sourceLines (before ++ text ++ after)) first last).1 ++ start = before ∧
      (passage (sourceLines (before ++ text ++ after)) first last).2 = start ++ text ++ more := by
  have hle : first ≤ last := by
    rw [hlast, List.count_append]
    omega
  have hcut := append_passage (sourceLines (before ++ text ++ after)) hfirst hle
  obtain ⟨start, hstart⟩ : (passage (sourceLines (before ++ text ++ after)) first last).1 <+:
      before := by
    rw [List.append_assoc]
    exact flatten_take_sourceLines_prefix _ (by omega)
  obtain ⟨more, hmore⟩ : before ++ text <+:
      ((sourceLines (before ++ text ++ after)).take last).flatten :=
    prefix_flatten_take_sourceLines _ (by omega)
  generalize passage (sourceLines (before ++ text ++ after)) first last = cut at *
  rw [← hcut, ← hstart, List.append_assoc, List.append_assoc] at hmore
  refine ⟨start, more, hstart, ?_⟩
  rw [List.append_assoc]
  exact (List.append_cancel_left hmore).symm

theorem infix_passage {before text after : List Char} {first last : Nat} (hfirst : 1 ≤ first)
    (hbefore : first ≤ 1 + before.count '\n') (hlast : last = 1 + (before ++ text).count '\n') :
    text <:+: (passage (sourceLines (before ++ text ++ after)) first last).2 := by
  obtain ⟨start, more, -, hsplit⟩ := split_passage after hfirst hbefore hlast
  exact ⟨start, more, hsplit.symm⟩

/-- A passage begins with the complete first line of what stands on its lines. -/
theorem passage_of_first_line {before text : List Char} (after : List Char) {first last : Nat}
    (hfirst : first = 1 + before.count '\n') (hlast : last = 1 + (before ++ text).count '\n') :
    ∃ start more, '\n' ∉ start ∧
      (passage (sourceLines (before ++ text ++ after)) first last).2 = start ++ text ++ more := by
  obtain ⟨start, more, hstart, hsplit⟩ :=
    split_passage after (by omega) (Nat.le_of_eq hfirst) hlast
  refine ⟨start, more, ?_, hsplit⟩
  rcases flatten_take_sourceLines_eq (first - 1) (before ++ text ++ after) with hall | hcount
  · -- what comes before the passage is the whole text, so nothing is left for its first line
    have hlen := congrArg List.length hstart
    rw [passage, hall] at hlen
    simp only [List.length_append] at hlen
    rw [List.eq_nil_of_length_eq_zero (l := start) (by omega)]
    exact List.not_mem_nil
  · have hlines := congrArg (List.count '\n') hstart
    rw [passage, List.count_append, hcount] at hlines
    rw [← List.count_eq_zero]
    omega

end Docent
