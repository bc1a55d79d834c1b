import Docent.Tree

/-!
# Solid text

The solid text of a tree ends with its last leaf that is neither blank nor empty; the last line of a
node is the one on which its solid text ends. In a tidy tree the solid text does not end with a line
feed, and a mark is solid.
-/

namespace Docent

/-- The kinds of the nodes that have parts; marks and names have none. -/
def Kind.IsInner (k : Kind) : Prop := k ≠ .token ∧ k ≠ .name

namespace Tree

/-! ### Solid text -/

mutual

/-- The text of a tree up to the end of its last leaf that is neither blank nor empty, if there is
such a leaf. -/
def solidText? : Tree → Option (List Char)
  | leaf k cs => if k = .blank ∨ cs = [] then none else some cs
  | node _ ts => solidTextOfList? ts

def solidTextOfList? : List Tree → Option (List Char)
  | [] => none
  | t :: ts =>
    match solidTextOfList? ts with
    | some cs => some (text t ++ cs)
    | none => solidText? t

end

mutual

/-- The line feeds up to the end of the last solid leaf are those of the solid text. -/
theorem solidNewlines_eq : (t : Tree) → t.solidNewlines = t.solidText?.map (List.count '\n')
  | leaf k cs => by
    rw [solidNewlines, solidText?]
    split <;> rfl
  | node _ ts => by rw [solidNewlines, solidText?, solidNewlinesOfList_eq ts]

theorem solidNewlinesOfList_eq : (ts : List Tree) →
    solidNewlinesOfList ts = (solidTextOfList? ts).map (List.count '\n')
  | [] => rfl
  | t :: ts => by
    rw [solidNewlinesOfList, solidTextOfList?, solidNewlinesOfList_eq ts, solidNewlines_eq t]
    cases solidTextOfList? ts with
    | none => rfl
    | some cs => simp [newlines_eq]

end

mutual

theorem prefix_of_solidText? : (t : Tree) → ∀ {cs}, t.solidText? = some cs → cs <+: t.text
  | leaf k cs, _, h => by
    rw [solidText?] at h
    split at h <;> cases h
    exact List.prefix_rfl
  | node _ ts, _, h => prefix_of_solidTextOfList? ts h

theorem prefix_of_solidTextOfList? : (ts : List Tree) → ∀ {cs}, solidTextOfList? ts = some cs →
    cs <+: textOfList ts
  | [], _, h => by cases h
  | t :: ts, cs, h => by
    rw [solidTextOfList?] at h
    rw [textOfList]
    cases hrest : solidTextOfList? ts with
    | some rest =>
      rw [hrest] at h
      cases h
      exact List.prefix_append_right_inj _ |>.2 (prefix_of_solidTextOfList? ts hrest)
    | none =>
      rw [hrest] at h
      exact (prefix_of_solidText? t h).trans (List.prefix_append _ _)

end

theorem prefix_of_solidText?_getD (t : Tree) : t.solidText?.getD [] <+: t.text := by
  cases h : t.solidText? with
  | none => exact List.nil_prefix
  | some cs => exact prefix_of_solidText? t h

theorem solidText?_leaf_getD (k : Kind) (cs : List Char) (hk : k = .name) :
    (leaf k cs).solidText?.getD [] = (leaf k cs).text := by
  subst hk
  cases cs <;> rfl

theorem solidText?_eq_kids {t u : Tree} (h : u ∈ t.kids) :
    t.solidText? = solidTextOfList? t.kids := by
  cases t with
  | leaf k cs => cases h
  | node k ts => rfl

theorem solidTextOfList?_append {us vs : List Tree} {cs : List Char}
    (h : solidTextOfList? vs = some cs) :
    solidTextOfList? (us ++ vs) = some (textOfList us ++ cs) := by
  induction us with
  | nil => exact h
  | cons t us ih => rw [List.cons_append, solidTextOfList?, ih, textOfList, List.append_assoc]

/-! ### Tidy trees -/

mutual

/-- In a tidy tree each leaf has some text, only a blank ends with a line feed, and marks and names
are leaves. -/
def Tidy : Tree → Prop
  | leaf k cs => cs ≠ [] ∧ (k ≠ .blank → cs.getLast? ≠ some '\n')
  | node k ts => k.IsInner ∧ TidyAll ts

def TidyAll : List Tree → Prop
  | [] => True
  | t :: ts => Tidy t ∧ TidyAll ts

end

theorem tidyAll_iff {ts : List Tree} : TidyAll ts ↔ ∀ t ∈ ts, t.Tidy := by
  induction ts with
  | nil => simp [TidyAll]
  | cons t ts ih => simp [TidyAll, ih]

theorem tidyAll_append {ts us : List Tree} : TidyAll (ts ++ us) ↔ TidyAll ts ∧ TidyAll us := by
  induction ts with
  | nil => simp [TidyAll]
  | cons t ts ih => simp [TidyAll, ih, and_assoc]

theorem tidyAll_close {k : Kind} (hk : k.IsInner) {parts : List Tree} (h : TidyAll parts) :
    TidyAll (close k parts) := by
  fun_induction close k parts with
  | case1 cs rest ih => exact ⟨h.1, ih h.2⟩
  | case2 cs rest ih => exact ⟨h.1, ih h.2⟩
  | case3 cs rest ih => exact ⟨h.1, ih h.2⟩
  | case4 => exact ⟨⟨hk, h⟩, trivial⟩

theorem tidyAll_kids {t : Tree} (h : t.Tidy) : TidyAll t.kids := by
  cases t with
  | leaf k cs => trivial
  | node k ts => exact h.2

theorem solidText?_of_leaf {t : Tree} (h : t.Tidy) (hk : t.kind = .token ∨ t.kind = .name) :
    ∃ cs, t.solidText? = some cs := by
  cases t with
  | node k ts => exact absurd hk (not_or.2 h.1)
  | leaf k cs =>
    refine ⟨cs, if_neg (not_or.2 ⟨?_, h.1⟩)⟩
    rintro rfl
    rcases hk with hk | hk <;> cases hk

theorem solidTextOfList?_of_mem {t : Tree} {ts : List Tree} {cs : List Char} (ht : t ∈ ts)
    (h : t.solidText? = some cs) : ∃ ds, solidTextOfList? ts = some ds := by
  induction ts with
  | nil => cases ht
  | cons u us ih =>
    rw [solidTextOfList?]
    cases hus : solidTextOfList? us with
    | some ds => exact ⟨_, rfl⟩
    | none =>
      rcases List.mem_cons.1 ht with rfl | ht
      · exact ⟨cs, h⟩
      · obtain ⟨ds, hds⟩ := ih ht
        rw [hus] at hds
        cases hds

theorem solidText?_of_name {t u : Tree} (h : t.Tidy) (hu : t.part? .name = some u) :
    ∃ cs, t.solidText? = some cs := by
  have hmem : u ∈ t.kids := List.mem_of_find?_eq_some hu
  have hkind : u.kind = .name := by simpa using List.find?_some hu
  have htidy : u.Tidy := tidyAll_iff.1 (tidyAll_kids h) u hmem
  obtain ⟨cs, hcs⟩ := solidText?_of_leaf htidy (.inr hkind)
  rw [solidText?_eq_kids hmem]
  exact solidTextOfList?_of_mem hmem hcs

mutual

theorem getLast?_solidText? : (t : Tree) → t.Tidy → ∀ {cs}, t.solidText? = some cs →
    cs ≠ [] ∧ cs.getLast? ≠ some '\n'
  | leaf k cs, ht, _, h => by
    rw [solidText?] at h
    split at h
    · cases h
    · rename_i hsolid
      cases h
      exact ⟨ht.1, ht.2 (not_or.1 hsolid).1⟩
  | node _ ts, ht, _, h => getLast?_solidTextOfList? ts ht.2 h

theorem getLast?_solidTextOfList? : (ts : List Tree) → TidyAll ts → ∀ {cs},
    solidTextOfList? ts = some cs → cs ≠ [] ∧ cs.getLast? ≠ some '\n'
  | [], _, _, h => by cases h
  | t :: ts, hts, cs, h => by
    rw [solidTextOfList?] at h
    cases hrest : solidTextOfList? ts with
    | some rest =>
      rw [hrest] at h
      cases h
      obtain ⟨hne, hlast⟩ := getLast?_solidTextOfList? ts hts.2 hrest
      refine ⟨List.append_ne_nil_of_right_ne_nil _ hne, ?_⟩
      rw [List.getLast?_eq_some_getLast hne] at hlast
      rwa [List.getLast?_append, List.getLast?_eq_some_getLast hne, Option.some_or]
    | none =>
      rw [hrest] at h
      exact getLast?_solidText? t hts.1 h

end

end Tree

end Docent
