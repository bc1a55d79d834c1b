import Docent.CommandLine.Session
import Mathlib.Data.List.TakeWhile

/-!
# Lines that are shown

Lines are shown one below the other, without the sequences that would steer a terminal. Main
statement: no such sequence goes over the end of a line, so that each line is shown by itself.
-/

namespace Docent

/-! ### Shapes that end before a character -/

namespace Shape

/-- Up to a character the shape takes what it takes of the text before that character. -/
structure EndsBefore (a : Shape) (c : Char) : Prop where
  same : ∀ cs ds, a (cs ++ c :: ds) = a cs
  le : ∀ cs n, a cs = some n → n ≤ cs.length

theorem one_endsBefore {p : Char → Bool} {c : Char} (h : p c = false) : (one p).EndsBefore c where
  same := by
    intro cs ds
    cases cs with
    | nil => simp [one, h]
    | cons d cs => rfl
  le := by
    intro cs n hn
    cases cs with
    | nil => cases hn
    | cons d cs =>
      rw [one] at hn
      split at hn
      · cases hn
        simp
      · cases hn

theorem isPrefixOf_append_cons {c : Char} {mark : List Char} (h : c ∉ mark) (cs ds : List Char) :
    mark.isPrefixOf (cs ++ c :: ds) = mark.isPrefixOf cs := by
  induction mark generalizing cs with
  | nil => rfl
  | cons m mark ih =>
    rw [List.mem_cons, not_or] at h
    cases cs with
    | nil =>
      have hm : (m == c) = false := beq_eq_false_iff_ne.2 (Ne.symm h.1)
      simp [List.isPrefixOf, hm]
    | cons d cs => simp [List.isPrefixOf, ih h.2]

theorem exactly_endsBefore {s : String} {c : Char} (h : c ∉ s.toList) :
    (exactly s).EndsBefore c where
  same := fun cs ds => by rw [exactly, exactly, isPrefixOf_append_cons h]
  le := by
    intro cs n hn
    rw [exactly] at hn
    split at hn
    · rename_i hfront
      cases hn
      have hle := (List.isPrefixOf_iff_prefix.1 hfront).length_le
      rwa [String.length_toList] at hle
    · cases hn

section

variable {a b : Shape} {c : Char} (ha : a.EndsBefore c)
include ha

theorem EndsBefore.drop {cs : List Char} {n : Nat} (h : a cs = some n) (ds : List Char) :
    (cs ++ c :: ds).drop n = cs.drop n ++ c :: ds :=
  List.drop_append_of_le_length (ha.le cs n h)

theorem EndsBefore.andThen (hb : b.EndsBefore c) : (a ++ b).EndsBefore c where
  same := by
    intro cs ds
    show Shape.andThen a b _ = Shape.andThen a b _
    rw [Shape.andThen, Shape.andThen, ha.same]
    cases hn : a cs with
    | none => rfl
    | some n =>
      dsimp only
      rw [ha.drop hn, hb.same]
  le := by
    intro cs n hn
    change Shape.andThen a b cs = some n at hn
    rw [Shape.andThen] at hn
    split at hn
    · cases hn
    · rename_i m hm
      obtain ⟨k, hk, rfl⟩ := Option.map_eq_some_iff.1 hn
      have hfirst := ha.le cs m hm
      have hrest := hb.le _ k hk
      rw [List.length_drop] at hrest
      omega

theorem EndsBefore.repeatOver (bound : List Char) {bound' cs : List Char}
    (hbound : cs.length ≤ bound.length) (hbound' : cs.length ≤ bound'.length) (ds : List Char) :
    Shape.repeatOver a bound' (cs ++ c :: ds) = Shape.repeatOver a bound cs ∧
      Shape.repeatOver a bound cs ≤ cs.length := by
  -- nothing is taken of what is empty before the character
  have hnone (bound : List Char) (ds : List Char) :
      Shape.repeatOver a bound (c :: ds) = 0 ∧ Shape.repeatOver a bound [] = 0 := by
    have hsame := ha.same [] ds
    rw [List.nil_append] at hsame
    cases bound with
    | nil => exact ⟨rfl, rfl⟩
    | cons d bound =>
      rw [Shape.repeatOver, Shape.repeatOver, hsame]
      rcases hn : a [] with _ | _ | n
      · exact ⟨rfl, rfl⟩
      · exact ⟨rfl, rfl⟩
      · exact absurd (ha.le [] _ hn) (by simp)
  -- on the bound, which is as long as what is left
  induction bound generalizing bound' cs with
  | nil =>
    obtain rfl : cs = [] := List.length_eq_zero_iff.1 (Nat.le_zero.1 hbound)
    exact ⟨(hnone bound' ds).1, Nat.le_refl 0⟩
  | cons d bound ih =>
    cases bound' with
    | nil =>
      obtain rfl : cs = [] := List.length_eq_zero_iff.1 (Nat.le_zero.1 hbound')
      rw [(hnone (d :: bound) ds).2]
      exact ⟨(hnone [] ds).1, Nat.le_refl 0⟩
    | cons d' bound' =>
      rw [Shape.repeatOver, Shape.repeatOver, ha.same]
      rcases hn : a cs with _ | _ | n
      · exact ⟨rfl, Nat.zero_le _⟩
      · exact ⟨rfl, Nat.zero_le _⟩
      · have hle := ha.le cs _ hn
        have hlength : (cs.drop (n + 1)).length = cs.length - (n + 1) := List.length_drop
        obtain ⟨hsame, hrest⟩ := @ih bound' (cs.drop (n + 1))
          (by rw [hlength]; simp only [List.length_cons] at hbound; omega)
          (by rw [hlength]; simp only [List.length_cons] at hbound'; omega)
        dsimp only
        rw [ha.drop hn, hsame]
        exact ⟨rfl, by omega⟩

theorem EndsBefore.many : (many a).EndsBefore c where
  same := by
    intro cs ds
    have hlength : cs.length ≤ (cs ++ c :: ds).length := by simp
    rw [Shape.many, Shape.many, (ha.repeatOver cs (Nat.le_refl _) hlength ds).1]
  le := by
    intro cs n hn
    cases hn
    exact (ha.repeatOver cs (Nat.le_refl _) (Nat.le_refl _) []).2

end

end Shape

namespace Text

/-! ### Lines without steering -/

theorem steering_endsBefore : steering.EndsBefore '\n' :=
  ((Shape.exactly_endsBefore (by decide)).andThen
    (Shape.one_endsBefore (by decide)).many).andThen (Shape.one_endsBefore (by decide))

theorem unsteeredAfter_append (n : Nat) {cs : List Char} (hn : n ≤ cs.length) (ds : List Char) :
    unsteeredAfter n (cs ++ '\n' :: ds) =
      unsteeredAfter n cs ++ '\n' :: unsteeredAfter 0 ds := by
  induction cs generalizing n with
  | nil =>
    obtain rfl : n = 0 := Nat.le_zero.1 hn
    rfl
  | cons c cs ih =>
    cases n with
    | succ n => exact ih n (Nat.le_of_succ_le_succ hn)
    | zero =>
      rw [List.cons_append, unsteeredAfter, unsteeredAfter, steering_endsBefore.same]
      split
      · cases hsteering : steering cs with
        | none =>
          dsimp only
          rw [ih 0 (Nat.zero_le _), List.cons_append]
        | some m => exact ih m (steering_endsBefore.le cs m hsteering)
      · rw [ih 0 (Nat.zero_le _), List.cons_append]

end Text

namespace CommandLine

theorem unlines_cons (line : String) (lines : List String) :
    unlines (line :: lines) = line ++ "\n" ++ unlines lines := by
  rw [unlines, List.map_cons, String.join_cons, unlines]

theorem unsteered_unlines (lines : List String) :
    Text.unsteered (unlines lines) = unlines (lines.map Text.unsteered) := by
  induction lines with
  | nil => rfl
  | cons line lines ih =>
    have hline := Text.unsteeredAfter_append 0 (Nat.zero_le line.toList.length)
      (unlines lines).toList
    have hall : (line ++ "\n" ++ unlines lines).toList =
        line.toList ++ '\n' :: (unlines lines).toList := by simp
    rw [List.map_cons, unlines_cons, unlines_cons, ← ih, Text.unsteered, hall, hline,
      ← String.toList_inj]
    simp [Text.unsteered]

end CommandLine

end Docent
