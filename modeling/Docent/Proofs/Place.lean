import Docent.Proofs.Address
import Docent.Proofs.Solid

/-!
# Where the text of a node stands

Main statement: the text of the node at an address is a part of the text of the tree, and its line
is one more than the number of line feeds before it.
-/

namespace Docent.Tree

namespace Site

theorem getElem?_go {s : Site} {line i : Nat} {before ts : List Tree} {p : Site}
    (h : (parts.go s line before ts)[i]? = some p) :
    ∃ us vs, ts = us ++ p.tree :: vs ∧ us.length = i ∧ p.line = line + newlinesOfList us := by
  induction ts generalizing line before i with
  | nil => cases h
  | cons t ts ih =>
    rw [parts.go] at h
    cases i with
    | zero =>
      cases h
      exact ⟨[], ts, rfl, rfl, rfl⟩
    | succ i =>
      obtain ⟨us, vs, rfl, hlen, hline⟩ := ih h
      refine ⟨t :: us, vs, rfl, by rw [List.length_cons, hlen], ?_⟩
      rw [hline, newlinesOfList, Nat.add_assoc]

theorem getElem?_parts {s p : Site} {i : Nat} (h : s.parts[i]? = some p) :
    ∃ us vs, s.tree.kids = us ++ p.tree :: vs ∧ us.length = i ∧
      p.line = s.line + newlinesOfList us :=
  getElem?_go h

theorem le_line_of_mem_parts {s p : Site} (h : p ∈ s.parts) : s.line ≤ p.line := by
  obtain ⟨i, hi, rfl⟩ := List.mem_iff_getElem.1 h
  obtain ⟨us, vs, -, -, hline⟩ := getElem?_parts (List.getElem?_eq_getElem hi)
  omega

theorem find?_parts {s p : Site} {c : Tree → Bool} (h : (s.parts.find? fun p => c p.tree) = some p) :
    ∃ us vs, s.tree.kids = us ++ p.tree :: vs ∧ (∀ u ∈ us, c u = false) ∧ c p.tree = true ∧
      p.line = s.line + newlinesOfList us := by
  obtain ⟨hp, ps, qs, hparts, hps⟩ := List.find?_eq_some_iff_append.1 h
  have hat : s.parts[ps.length]? = some p := by
    rw [hparts, List.getElem?_append_right (Nat.le_refl _), Nat.sub_self, List.getElem?_cons_zero]
  obtain ⟨us, vs, hkids, hlen, hline⟩ := getElem?_parts hat
  have hus : us = ps.map Site.tree := by
    have hmap := s.map_tree_parts
    rw [hparts, hkids, List.map_append] at hmap
    exact (List.append_inj_left hmap (by rw [List.length_map, hlen])).symm
  refine ⟨us, vs, hkids, fun u hu => ?_, hp, hline⟩
  rw [hus, List.mem_map] at hu
  obtain ⟨q, hq, rfl⟩ := hu
  simpa using hps q hq

theorem endLine_eq (s : Site) : s.endLine = s.line + (s.tree.solidText?.getD []).count '\n' := by
  rw [endLine, solidNewlines_eq]
  cases s.tree.solidText? <;> rfl

theorem text_eq_kids {s p : Site} {i : Nat} (h : s.parts[i]? = some p) :
    s.tree.text = textOfList s.tree.kids := by
  cases hs : s.tree with
  | leaf k cs =>
    obtain ⟨us, vs, hkids, -⟩ := getElem?_parts h
    rw [hs] at hkids
    simp [kids] at hkids
  | node k ts => rfl

/-- The text of the node at an address is a part of the text, and its line is one more than the
number of line feeds before it. -/
theorem text_at? {s x : Site} {a : Address} (h : s.at? a = some x) :
    ∃ before after, s.tree.text = before ++ x.tree.text ++ after ∧
      x.line = s.line + before.count '\n' := by
  induction a generalizing s with
  | nil =>
    cases h
    exact ⟨[], [], by simp, rfl⟩
  | cons i a ih =>
    rw [at?_cons] at h
    obtain ⟨p, hp, hx⟩ := Option.bind_eq_some_iff.1 h
    obtain ⟨before, after, htext, hline⟩ := ih hx
    obtain ⟨us, vs, hkids, -, hpline⟩ := getElem?_parts hp
    refine ⟨textOfList us ++ before, after ++ textOfList vs, ?_, ?_⟩
    · rw [text_eq_kids hp, hkids, textOfList_append, textOfList, htext]
      simp only [List.append_assoc]
    · rw [hline, hpline, newlinesOfList_eq, List.count_append, Nat.add_assoc]

theorem one_le_line_at? {t : Tree} {x : Site} {a : Address} (h : (ofRoot t).at? a = some x) :
    1 ≤ x.line := by
  obtain ⟨before, after, -, hline⟩ := text_at? h
  have hroot : (ofRoot t).line = 1 := rfl
  omega

theorem tidy_at? {s x : Site} {a : Address} (hs : s.tree.Tidy) (h : s.at? a = some x) :
    x.tree.Tidy := by
  induction a generalizing s with
  | nil =>
    cases h
    exact hs
  | cons i a ih =>
    rw [at?_cons] at h
    obtain ⟨p, hp, hx⟩ := Option.bind_eq_some_iff.1 h
    obtain ⟨us, vs, hkids, -⟩ := getElem?_parts hp
    have hall := tidyAll_kids hs
    rw [hkids, tidyAll_append] at hall
    exact ih hall.2.1 hx

end Site

end Docent.Tree
