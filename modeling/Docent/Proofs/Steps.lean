import Docent.FileTree

/-!
# Routes as they are followed

A route is written out and then followed name by name. Main statement: the steps of what a route from
the working directory writes are its own names.
-/

namespace Docent

namespace Text

theorem pieces_eq_splitOn (sep : Char) (cs : List Char) : pieces sep cs = cs.splitOn sep := by
  induction cs with
  | nil => rfl
  | cons c cs ih =>
    rw [pieces, List.splitOn, List.splitOnP_cons_eq_if_modifyHead, ← List.splitOn, ← ih]
    rcases hps : pieces sep cs with _ | ⟨p, ps⟩
    · exact absurd hps (pieces_ne_nil sep cs)
    · simp only [beq_iff_eq]
      split <;> rfl

theorem not_mem_of_mem_pieces {sep : Char} {cs p : List Char} (h : p ∈ pieces sep cs) :
    sep ∉ p := by
  induction cs generalizing p with
  | nil => simp_all [pieces]
  | cons c cs ih =>
    rw [pieces] at h
    rcases hps : pieces sep cs with _ | ⟨q, qs⟩
    · exact absurd hps (pieces_ne_nil sep cs)
    · rw [hps] at h ih
      simp only at h
      split at h
      · rcases List.mem_cons.1 h with rfl | h
        · exact List.not_mem_nil
        · exact ih h
      · rename_i hc
        rcases List.mem_cons.1 h with rfl | h
        · rw [List.mem_cons, not_or]
          exact ⟨fun heq => hc heq.symm, ih List.mem_cons_self⟩
        · exact ih (List.mem_cons_of_mem q h)

theorem pieces_of_not_mem {sep : Char} {cs : List Char} (h : sep ∉ cs) : pieces sep cs = [cs] := by
  rw [pieces_eq_splitOn]
  exact List.splitOn_eq_singleton h

theorem pieces_append (sep : Char) (cs ds : List Char) :
    pieces sep (cs ++ sep :: ds) = pieces sep cs ++ pieces sep ds := by
  induction cs with
  | nil =>
    rw [List.nil_append, pieces]
    rcases hds : pieces sep ds with _ | ⟨p, ps⟩
    · exact absurd hds (pieces_ne_nil sep ds)
    · simp [pieces, hds]
  | cons c cs ih =>
    rw [List.cons_append, pieces, pieces, ih]
    rcases hcs : pieces sep cs with _ | ⟨p, ps⟩
    · exact absurd hcs (pieces_ne_nil sep cs)
    · rw [List.cons_append]
      dsimp only
      split <;> rfl

theorem exists_mem_pieces_iff {sep c : Char} (hc : c ≠ sep) (cs : List Char) :
    (∃ p ∈ pieces sep cs, c ∈ p) ↔ c ∈ cs := by
  induction cs with
  | nil => simp [pieces]
  | cons d cs ih =>
    rw [pieces]
    rcases hps : pieces sep cs with _ | ⟨p, ps⟩
    · exact absurd hps (pieces_ne_nil sep cs)
    · rw [hps] at ih
      by_cases hd : d = sep
      · subst hd
        simpa [hc] using ih
      · simp only [hd, if_false, List.mem_cons, exists_eq_or_imp] at ih ⊢
        rw [or_assoc, ih]

end Text

namespace Route

open FileTree

/-! ### Routes from the working directory -/

/-- A route from the working directory whose names are names. -/
structure Relative (r : Route) : Prop where
  root : r.root = ""
  full : ∀ n ∈ r.names, n ≠ ""
  whole : ∀ n ∈ r.names, '/' ∉ n.toList

theorem rootOf_eq_empty {cs : List Char} (h : cs.head? ≠ some '/') : rootOf cs = "" := by
  fun_cases rootOf cs with
  | case1 | case2 | case3 => exact absurd rfl h
  | case4 => rfl

theorem relative_ofText {path : String} (h : isAbsolute path = false) :
    (ofText path).Relative where
  root := by
    rw [isAbsolute, decide_eq_false_iff_not] at h
    exact rootOf_eq_empty h
  full := by
    intro n hn
    have hkept := (List.mem_filter.1 hn).2
    simp only [bne_iff_ne, ne_eq, Bool.and_eq_true] at hkept
    exact hkept.1
  whole := by
    intro n hn
    obtain ⟨cs, hcs, rfl⟩ := List.mem_map.1 (List.mem_filter.1 hn).1
    rw [String.toList_ofList]
    exact Text.not_mem_of_mem_pieces hcs

theorem Relative.parent {r : Route} (h : r.Relative) : r.parent.Relative where
  root := h.root
  full := fun n hn => h.full n (List.dropLast_subset _ hn)
  whole := fun n hn => h.whole n (List.dropLast_subset _ hn)

namespace Relative

variable {r : Route} (h : r.Relative)
include h

theorem toList_joined :
    (r.root ++ String.intercalate "/" r.names).toList =
      ['/'].intercalate (r.names.map String.toList) := by
  rw [h.root, String.empty_append, String.toList_intercalate]
  rfl

theorem steps_joined (hnames : r.names ≠ []) :
    stepsOf (r.root ++ String.intercalate "/" r.names) = r.names := by
  rw [stepsOf, h.toList_joined, Text.pieces_eq_splitOn, List.splitOn_intercalate, List.map_map]
  · have hsame : String.ofList ∘ String.toList = id := funext fun s => String.ofList_toList
    rw [hsame, List.map_id]
  · intro cs hcs
    obtain ⟨n, hn, rfl⟩ := List.mem_map.1 hcs
    exact h.whole n hn
  · simpa using hnames

theorem text_eq : r.text = if r.names = [] then "." else r.root ++ String.intercalate "/" r.names := by
  rw [text]
  by_cases hnames : r.names = []
  · simp [hnames, h.root]
  · rw [if_neg hnames, if_neg]
    intro hempty
    have hsteps := h.steps_joined hnames
    rw [hempty] at hsteps
    exact h.full "" (by rw [← hsteps]; exact List.mem_singleton.2 rfl) rfl

theorem steps_text : stepsOf r.text = if r.names = [] then ["."] else r.names := by
  rw [h.text_eq]
  split
  · rfl
  · rename_i hnames
    exact h.steps_joined hnames

theorem text_ne_empty : r.text ≠ "" := by
  intro hempty
  have hsteps := h.steps_text
  rw [hempty] at hsteps
  split at hsteps
  · exact absurd hsteps (by decide)
  · exact h.full "" (by rw [← hsteps]; exact List.mem_singleton.2 rfl) rfl

theorem isAbsolute_text : isAbsolute r.text = false := by
  rw [h.text_eq]
  split
  · rfl
  · rename_i hnames
    obtain ⟨n, ns, hcons⟩ := List.exists_cons_of_ne_nil hnames
    have hn : n ∈ r.names := hcons ▸ List.mem_cons_self
    rw [isAbsolute, h.toList_joined, hcons]
    rcases hcs : n.toList with _ | ⟨c, cs⟩
    · exact absurd (String.toList_eq_nil_iff.1 hcs) (h.full n hn)
    · have hc : c ≠ '/' := by
        rintro rfl
        exact h.whole n hn (by rw [hcs]; exact List.mem_cons_self)
      cases ns <;> simp [hcs, hc, List.intercalate]

theorem exists_mem_names {c : Char} (hslash : c ≠ '/') (hdot : c ≠ '.') (hc : c ∈ r.text.toList) :
    ∃ n ∈ r.names, c ∈ n.toList := by
  obtain ⟨p, hp, hcp⟩ := (Text.exists_mem_pieces_iff hslash _).2 hc
  have hstep : String.ofList p ∈ stepsOf r.text := List.mem_map_of_mem hp
  rw [h.steps_text] at hstep
  split at hstep
  · have hp : p = ['.'] := by
      rw [← String.toList_ofList (l := p), List.mem_singleton.1 hstep]
      rfl
    rw [hp, List.mem_singleton] at hcp
    exact absurd hcp hdot
  · exact ⟨_, hstep, by rwa [String.toList_ofList]⟩

end Relative

theorem mem_of_mem_names {path n : String} (hn : n ∈ (ofText path).names) {c : Char}
    (hc : c ∈ n.toList) : c ∈ path.toList := by
  obtain ⟨p, hp, rfl⟩ := List.mem_map.1 (List.mem_filter.1 hn).1
  rw [String.toList_ofList] at hc
  have hslash : c ≠ '/' := by
    rintro rfl
    exact Text.not_mem_of_mem_pieces hp hc
  exact (Text.exists_mem_pieces_iff hslash _).1 ⟨p, hp, hc⟩

/-! ### Routes from the root of the system -/

theorem isAbsolute_text {r : Route} (h : r.root.toList.head? = some '/') :
    isAbsolute r.text = true := by
  have hjoined : (r.root ++ String.intercalate "/" r.names).toList.head? = some '/' := by
    rw [String.toList_append, List.head?_append, h]
    rfl
  rw [isAbsolute, text, if_neg, decide_eq_true_eq]
  · exact hjoined
  · intro hempty
    rw [hempty] at hjoined
    cases hjoined

theorem head?_rootOf {cs : List Char} (h : cs.head? = some '/') :
    (rootOf cs).toList.head? = some '/' := by
  fun_cases rootOf cs with
  | case1 | case2 | case3 => simp
  | case4 _ _ _ hnone =>
    obtain ⟨tail, htail⟩ := List.head?_eq_some_iff.1 h
    exact absurd htail (hnone tail)

end Route

end Docent
