import Docent.Grammar.Indented.Parse
import Docent.Proofs.Indented.Tokens
import Mathlib.Data.List.Forall2

/-!
# Tokens and refusals that differ in the last line

A text with an empty line more at its end is cut into the same tokens, but the tokens at the end of
the source, which stand on its last line, stand on the line after it. What is said of lines, faults,
refusals and tokens here is what these texts have in common.
-/

namespace Docent.Indented

variable {last : Nat}

/-- Two lines that are the same, or of which the first is not before the last line and the second
comes after it. -/
class LineNear (last l l' : Nat) : Prop where
  eq_or : l' = l ∨ last ≤ l ∧ l' = l + 1

namespace LineNear

instance refl (l : Nat) : LineNear last l l := ⟨.inl rfl⟩

theorem succ {l : Nat} (h : last ≤ l) : LineNear last l (l + 1) := ⟨.inr ⟨h, rfl⟩⟩

instance add {l l' : Nat} (n : Nat) [h : LineNear last l l'] :
    LineNear last (l + n) (l' + n) := by
  rcases h.eq_or with rfl | ⟨hle, rfl⟩
  · exact refl _
  · exact ⟨.inr ⟨Nat.le_add_right_of_le hle, Nat.add_right_comm _ _ _⟩⟩

end LineNear

/-- Two faults that are the same but for a line that they name. -/
class inductive Fault.Near (last : Nat) : Fault → Fault → Prop
  | same (f : Fault) : Near last f f
  | string {l l' : Nat} (h : LineNear last l l') :
    Near last (.unterminatedString l) (.unterminatedString l')
  | blockString {l l' : Nat} (h : LineNear last l l') :
    Near last (.unterminatedBlockString l) (.unterminatedBlockString l')
  | suite (owner : SuiteOwner) {l l' : Nat} (h : LineNear last l l') :
    Near last (.noSuiteFor owner l) (.noSuiteFor owner l')

namespace Fault

instance near_refl (f : Fault) : Near last f f := .same f

instance near_suite (owner : SuiteOwner) {l l' : Nat} [h : LineNear last l l'] :
    Near last (.noSuiteFor owner l) (.noSuiteFor owner l') := .suite owner h

end Fault

/-- Two refusals that are the same but for the lines that they name. -/
structure Refusal.Near (last : Nat) (r r' : Refusal) : Prop where
  fault : Fault.Near last r.fault r'.fault
  line : Option.Rel (LineNear last) r.line r'.line

namespace Refusal.Near

theorem refl (r : Refusal) : r.Near last r :=
  ⟨.same _, by cases r.line with | none => exact .none | some l => exact .some (.refl l)⟩

theorem rel_refl (o : Option Refusal) : Option.Rel (Refusal.Near last) o o := by
  cases o with
  | none => exact .none
  | some r => exact .some (refl r)

end Refusal.Near

/-- Two tokens that are the same, or stand for the same at the ends of two texts. -/
inductive Token.Near (last : Nat) : Token → Token → Prop
  | same (t : Token) : Near last t t
  | dedent (depth : Nat) {l l' : Nat} (h : LineNear last l l') :
    Near last ⟨.dedent, [], [], "", l, depth⟩ ⟨.dedent, [], [], "", l', depth⟩
  | finish (lead lead' : List Char) (depth : Nat) {l l' : Nat} (h : LineNear last l l') :
    Near last ⟨.finish, lead, [], "", l, depth⟩ ⟨.finish, lead', [], "", l', depth⟩
  | broken {f f' : Fault} (definite : Bool) (unclosed : Option (Char × Nat))
    (lead lead' : List Char) (depth : Nat) {l l' : Nat} (hf : Fault.Near last f f')
    (h : LineNear last l l') :
    Near last ⟨.broken f definite unclosed, lead, [], "", l, depth⟩
      ⟨.broken f' definite unclosed, lead', [], "", l', depth⟩

theorem Token.Near.line {t t' : Token} (h : t.Near last t') : LineNear last t.line t'.line := by
  cases h <;> first | assumption | infer_instance

theorem Token.Near.symbol {t t' : Token} (h : t.Near last t') : t'.symbol = t.symbol := by
  cases h <;> rfl

theorem Token.Near.isBroken {t t' : Token} (h : t.Near last t') : t'.isBroken = t.isBroken := by
  cases h <;> rfl

theorem Token.Near.text {t t' : Token} (h : t.Near last t') : t'.text = t.text := by
  cases h <;> rfl

/-- Lists of tokens that are the same up to the blocks that are closed at the end, or up to the
last token. -/
inductive Endings (last : Nat) : List Token → List Token → Prop
  | nil : Endings last [] []
  | last {t t' : Token} (h : t.Near last t') : Endings last [t] [t']
  | cons (t : Token) {ts ts' : List Token} (h : Endings last ts ts') :
    Endings last (t :: ts) (t :: ts')
  | dedent (depth : Nat) {l l' : Nat} (hl : LineNear last l l') {ts ts' : List Token}
    (h : Endings last ts ts') (hts : ∀ t ∈ ts, t.isBroken = false) :
    Endings last (⟨.dedent, [], [], "", l, depth⟩ :: ts) (⟨.dedent, [], [], "", l', depth⟩ :: ts')

namespace Endings

variable {ts ts' : List Token}

theorem forall₂ (h : Endings last ts ts') : List.Forall₂ (Token.Near last) ts ts' := by
  induction h with
  | nil => exact .nil
  | last h => exact .cons h .nil
  | cons t _ ih => exact .cons (.same t) ih
  | dedent depth hl _ _ ih => exact .cons (.dedent depth hl) ih

theorem getElem? (h : Endings last ts ts') (i : Nat) :
    Option.Rel (Token.Near last) ts[i]? ts'[i]? := by
  have hall := h.forall₂
  clear h
  induction hall generalizing i with
  | nil => exact .none
  | cons ht _ ih =>
    cases i with
    | zero => exact .some ht
    | succ i => exact ih i

end Endings

end Docent.Indented
