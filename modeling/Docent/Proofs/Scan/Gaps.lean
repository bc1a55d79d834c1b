import Docent.Grammar.Scan
import Docent.Outline
import Docent.Proofs.Shape
import Mathlib.Data.List.Basic

/-!
# Gaps leaf by leaf

A gap is cut off leaf by leaf, as long as the text begins with one. The bound on the number of
leaves is never reached where a leaf is never empty.
-/

namespace Docent

/-- A documentation block as it is written. -/
def IsBlock (cs : List Char) : Prop :=
  ∃ r, cs = '/' :: '*' :: r ∧ (Shape.through "*/").Takes r ∧ isDocBlock cs = true

namespace Scan

/-- Cuts leaves off a text; the first list bounds their number. -/
def cutOver (leaf? : List Char → Option (Tree × List Char)) :
    List Char → List Char → Forest × List Char
  | [], cs => ([], cs)
  | _ :: bound, cs =>
    match leaf? cs with
    | none => ([], cs)
    | some (t, rest) => (t :: (cutOver leaf? bound rest).1, (cutOver leaf? bound rest).2)

/-- Cuts off all leaves with which a text begins. -/
def cut (leaf? : List Char → Option (Tree × List Char)) (cs : List Char) : Forest × List Char :=
  cutOver leaf? cs cs

/-- A way to cut leaves off texts: each has the text that is cut off, and it is not empty. -/
class Cuts (leaf? : List Char → Option (Tree × List Char)) : Prop where
  text : ∀ {cs rest t}, leaf? cs = some (t, rest) → t.text ++ rest = cs
  ne_nil : ∀ {cs rest t}, leaf? cs = some (t, rest) → t.text ≠ []

variable {leaf? : List Char → Option (Tree × List Char)}

theorem cut_of_none {cs : List Char} (h : leaf? cs = none) : cut leaf? cs = ([], cs) := by
  cases cs with
  | nil => rfl
  | cons c cs => rw [cut, cutOver, h]

variable [hleaf : Cuts leaf?]

theorem Cuts.length_lt {cs rest : List Char} {t : Tree} (h : leaf? cs = some (t, rest)) :
    rest.length < cs.length := by
  have htext := hleaf.text h
  have hpos := List.length_pos_iff.2 (hleaf.ne_nil h)
  rw [← htext, List.length_append]
  omega

theorem cutOver_congr {bound bound' cs : List Char} (h : cs.length ≤ bound.length)
    (h' : cs.length ≤ bound'.length) : cutOver leaf? bound cs = cutOver leaf? bound' cs := by
  have hnil (bound : List Char) : cutOver leaf? bound [] = ([], []) := by
    cases bound with
    | nil => rfl
    | cons c bound =>
      rw [cutOver]
      split
      · rfl
      · rename_i hcut
        exact absurd (Cuts.length_lt hcut) (Nat.not_lt_zero _)
  induction bound generalizing bound' cs with
  | nil =>
    obtain rfl := List.length_eq_zero_iff.1 (Nat.le_zero.1 h)
    rw [hnil, hnil]
  | cons c bound ih =>
    cases bound' with
    | nil =>
      obtain rfl := List.length_eq_zero_iff.1 (Nat.le_zero.1 h')
      rw [hnil, hnil]
    | cons c' bound' =>
      rw [List.length_cons] at h h'
      rw [cutOver, cutOver]
      split
      · rfl
      · rename_i t rest hcut
        have hlt := Cuts.length_lt hcut
        have hfirst : rest.length ≤ bound.length := by omega
        have hsecond : rest.length ≤ bound'.length := by omega
        rw [ih hfirst hsecond]

theorem cut_of_some {cs rest : List Char} {t : Tree} (h : leaf? cs = some (t, rest)) :
    cut leaf? cs = (t :: (cut leaf? rest).1, (cut leaf? rest).2) := by
  have hlt := Cuts.length_lt h
  cases cs with
  | nil => exact absurd hlt (Nat.not_lt_zero _)
  | cons c cs =>
    rw [List.length_cons] at hlt
    have hbound : cutOver leaf? cs rest = cut leaf? rest :=
      cutOver_congr (by omega) (Nat.le_refl _)
    rw [cut, cutOver, h]
    dsimp only
    rw [hbound]

/-- Induction on the leaves that are cut off: without a leaf, and with one leaf more in front. -/
theorem cut_induction {P : List Char → Forest → List Char → Prop} {cs rest : List Char} {f : Forest}
    (h : cut leaf? cs = (f, rest)) (hstop : ∀ cs, leaf? cs = none → P cs [] cs)
    (hstep : ∀ t y f, leaf? (t.text ++ y) = some (t, y) → P y f rest →
      P (t.text ++ y) (t :: f) rest) : P cs f rest := by
  induction hlength : cs.length using Nat.strongRecOn generalizing cs f with
  | ind n ih =>
    cases hcut : leaf? cs with
    | none =>
      rw [cut_of_none hcut] at h
      cases h
      exact hstop rest hcut
    | some leaf =>
      obtain ⟨t, y⟩ := leaf
      rw [cut_of_some hcut] at h
      obtain ⟨rfl, hrest⟩ := Prod.mk.inj h
      have hlt : y.length < n := hlength ▸ Cuts.length_lt hcut
      obtain rfl := hleaf.text hcut
      exact hstep t y _ hcut (ih y.length hlt (Prod.ext rfl hrest) rfl)

theorem leaf?_of_cut {cs rest : List Char} {f : Forest} (h : cut leaf? cs = (f, rest)) :
    leaf? rest = none :=
  cut_induction (P := fun _ _ rest => leaf? rest = none) h (fun _ hnone => hnone)
    fun _ _ _ _ hrest => hrest

theorem text_of_cut {cs rest : List Char} {f : Forest} (h : cut leaf? cs = (f, rest)) :
    Tree.textOfList f ++ rest = cs := by
  refine cut_induction (P := fun cs f rest => Tree.textOfList f ++ rest = cs) h (fun _ _ => rfl)
    fun t y f _ hy => ?_
  rw [Tree.textOfList, List.append_assoc, hy]

/-- A gap is cut off again before a text that is as good as the one before which it was cut off. -/
theorem cut_before {Alike : List Char → List Char → Prop}
    (hlift : ∀ {t : Tree} {y y' : List Char}, leaf? (t.text ++ y) = some (t, y) → Alike y y' →
      leaf? (t.text ++ y') = some (t, y') ∧ Alike (t.text ++ y) (t.text ++ y'))
    {cs rest rest' : List Char} {f : Forest} (h : cut leaf? cs = (f, rest))
    (halike : Alike rest rest') (hstop : leaf? rest' = none) :
    cut leaf? (Tree.textOfList f ++ rest') = (f, rest') ∧ Alike cs (Tree.textOfList f ++ rest') := by
  refine cut_induction (P := fun cs f rest => Alike rest rest' →
    cut leaf? (Tree.textOfList f ++ rest') = (f, rest') ∧ Alike cs (Tree.textOfList f ++ rest')) h
    (fun _ _ halike => ⟨cut_of_none hstop, halike⟩) (fun t y f hcut ih halike => ?_) halike
  -- what follows a leaf is alike in both texts
  obtain ⟨hgap, hafter⟩ := ih halike
  obtain ⟨hfirst, hbefore⟩ := hlift hcut hafter
  rw [Tree.textOfList, List.append_assoc]
  exact ⟨by rw [cut_of_some hfirst, hgap], hbefore⟩

end Scan

end Docent
