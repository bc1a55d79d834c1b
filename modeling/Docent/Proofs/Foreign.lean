import Docent.Proofs.Entries
import Docent.Settings.Load

/-!
# Faults of documents that are no faults of their text

Users are told of a document that is not well formed, and of a value that is not an expected one. A
value can also be at fault by its kind or its size, and a scalar by what its reader does not look
for. Main statements: `toReal_escapes_iff` and `toWhole_escapes_iff` for values that are to be
numbers, `isForeign_iff` for documents.
-/

namespace Docent

/-! ### Numbers -/

/-- Whether a value is of a kind that no number can be made of. -/
def Value.isNoNumber : Value → Bool
  | .null | .day _ | .moment _ | .list _ | .members _ | .dict _ => true
  | _ => false

theorem Value.toReal_escapes_iff {v : Value} :
    (∃ e, v.toReal = .error e ∧ e.class ≠ .badValue) ↔
      v.isNoNumber = true ∨ ∃ i, v = .int i ∧ Binary64.ofInt? i = none := by
  have hreal : ∀ cs, ¬ ∃ e, realOf cs v = .error e ∧ e.class ≠ .badValue := by
    rintro cs ⟨e, he, hclass⟩
    rw [realOf] at he
    split at he
    · cases he
    · cases he
      exact hclass rfl
  cases v with
  | text s => exact iff_of_false (hreal _) (by simp [isNoNumber])
  | bytes bs => exact iff_of_false (hreal _) (by simp [isNoNumber])
  | float x => simp [toReal, isNoNumber]
  | bool b =>
    have hsome : ∃ x, realOfInt (if b then 1 else 0) = .ok x := by
      cases b
      · exact ⟨_, rfl⟩
      · exact ⟨_, rfl⟩
    obtain ⟨x, hx⟩ := hsome
    simp [toReal, isNoNumber, hx]
  | int i =>
    cases hi : Binary64.ofInt? i with
    | some x => simp [toReal, isNoNumber, realOfInt, hi]
    | none => simp [toReal, isNoNumber, realOfInt, hi, NumberFault.class]
  | _ => simp [toReal, isNoNumber, NumberFault.class]

theorem Value.toWhole_escapes_iff {v : Value} :
    (∃ e, v.toWhole = .error e ∧ e.class ≠ .badValue) ↔
      v.isNoNumber = true ∨ ∃ negative, v = .float (.infinite negative) := by
  have hwhole : ∀ cs, ¬ ∃ e, wholeOf 10 cs v = .error e ∧ e.class ≠ .badValue := by
    rintro cs ⟨e, he, hclass⟩
    rw [wholeOf] at he
    split at he
    · cases he
      exact hclass rfl
    · split at he
      · cases he
        exact hclass rfl
      · cases he
  cases v with
  | text s => exact iff_of_false (hwhole _) (by simp [isNoNumber])
  | bytes bs => exact iff_of_false (hwhole _) (by simp [isNoNumber])
  | float x => cases x <;> simp [toWhole, isNoNumber, NumberFault.class]
  | bool b => simp [toWhole, isNoNumber]
  | int i => simp [toWhole, isNoNumber]
  | _ => simp [toWhole, isNoNumber, NumberFault.class]

/-! ### Scalars of a document -/

namespace Yaml

/-- Whether a fault of the text of a scalar is none that users are told of: a word that is no truth
value, a number without a character, a date that is none or that a mapping stands for, a number beyond
bounds. -/
def TextFault.isForeign : TextFault → Bool
  | .notATruthWord _ | .emptyNumber | .notAStamp | .stampOfMapping | .number .tooLarge => true
  | _ => false

/-- Whether a fault of a document is none that users are told of. -/
def Fault.isForeign : Fault → Bool
  | .document .codeTooLarge => true
  | .text e => e.isForeign
  | _ => false

/-- The fault of a number that a text writes is one of the text, or the number is too large. -/
def TextFault.IsTextual (e : TextFault) : Prop :=
  ∀ n, e = .number n → n.class = .badValue ∨ n = .tooLarge

theorem isTextual_of_wholeIn {base : Nat} {cs : List Char} {e : TextFault}
    (h : wholeIn base cs = .error e) : e.IsTextual := by
  obtain ⟨n, hn, rfl⟩ := error_of_mapError h
  rintro n' ⟨⟩
  rw [wholeOf] at hn
  split at hn
  · cases hn
    exact .inl rfl
  · split at hn
    · cases hn
      exact .inl rfl
    · cases hn

theorem isTextual_of_realIn {cs : List Char} {e : TextFault} (h : realIn cs = .error e) :
    e.IsTextual := by
  obtain ⟨n, hn, rfl⟩ := error_of_mapError h
  rintro n' ⟨⟩
  rw [realOf] at hn
  split at hn
  · cases hn
  · cases hn
    exact .inl rfl

theorem error_of_mapM {ε α β : Type} {f : α → Except ε β} {xs : List α} {e : ε}
    (h : xs.mapM f = .error e) : ∃ x ∈ xs, f x = .error e := by
  induction xs with
  | nil => cases h
  | cons x xs ih =>
    rw [List.mapM_cons] at h
    rcases error_of_bind h with hx | ⟨y, -, h⟩
    · exact ⟨x, List.mem_cons_self, hx⟩
    · rcases error_of_bind h with hxs | ⟨ys, -, h⟩
      · obtain ⟨x', hx', he⟩ := ih hxs
        exact ⟨x', List.mem_cons_of_mem _ hx', he⟩
      · cases h

theorem isTextual_of_wholeNumber {cs : List Char} {e : TextFault}
    (h : wholeNumber cs = .error e) : e.IsTextual := by
  have h := error_of_map h
  rw [unsignedWhole.eq_def] at h
  split at h
  · cases h
    rintro n ⟨⟩
  · cases h
  · exact isTextual_of_wholeIn h
  · exact isTextual_of_wholeIn h
  · exact isTextual_of_wholeIn h
  · split at h
    · rcases error_of_bind h with h | ⟨parts, -, h⟩
      · obtain ⟨part, -, h⟩ := error_of_mapM h
        exact isTextual_of_wholeIn h
      · cases h
    · exact isTextual_of_wholeIn h

theorem isTextual_of_sumOfSixtieths {k : Nat} {sum : Binary64} {xs : List Binary64}
    {e : TextFault} (h : sumOfSixtieths k sum xs = .error e) : e.IsTextual := by
  induction xs generalizing k sum with
  | nil => cases h
  | cons x xs ih =>
    rw [sumOfSixtieths] at h
    rcases error_of_bind h with h | ⟨base, -, h⟩
    · obtain ⟨n, hn, rfl⟩ := error_of_mapError h
      rintro n' ⟨⟩
      rw [realOfInt] at hn
      split at hn
      · cases hn
      · cases hn
        exact .inr rfl
    · exact ih h

theorem isTextual_of_realNumber {cs : List Char} {e : TextFault}
    (h : realNumber cs = .error e) : e.IsTextual := by
  rw [realNumber] at h
  split at h
  · cases h
    rintro n ⟨⟩
  · have h := error_of_map h
    rw [unsignedReal] at h
    split at h
    · cases h
    · split at h
      · cases h
      · split at h
        · rcases error_of_bind h with h | ⟨parts, -, h⟩
          · obtain ⟨part, -, h⟩ := error_of_mapM h
            exact isTextual_of_realIn h
          · exact isTextual_of_sumOfSixtieths h
        · exact isTextual_of_realIn h

theorem isTextual_of_inRange {n low high : Nat} {problem : String} {e : TextFault}
    (h : inRange n low high problem = .error e) : e.IsTextual := by
  rw [inRange] at h
  split at h
  · cases h
  · cases h
    rintro n ⟨⟩

theorem isTextual_of_dayOf {year month day : Nat} {e : TextFault}
    (h : dayOf year month day = .error e) : e.IsTextual := by
  rcases error_of_bind h with h | ⟨_, -, h⟩
  · exact isTextual_of_inRange h
  · rcases error_of_bind h with h | ⟨_, -, h⟩
    · exact isTextual_of_inRange h
    · rcases error_of_bind h with h | ⟨_, -, h⟩
      · exact isTextual_of_inRange h
      · cases h

theorem isTextual_of_momentOf {year month day hour minute second micro : Nat}
    {offset : Option Int} {e : TextFault}
    (h : momentOf year month day hour minute second micro offset = .error e) : e.IsTextual := by
  rcases error_of_bind h with h | ⟨_, -, h⟩
  · exact isTextual_of_dayOf h
  · rcases error_of_bind h with h | ⟨_, -, h⟩
    · exact isTextual_of_inRange h
    · rcases error_of_bind h with h | ⟨_, -, h⟩
      · exact isTextual_of_inRange h
      · rcases error_of_bind h with h | ⟨_, -, h⟩
        · exact isTextual_of_inRange h
        · cases h

theorem isTextual_of_dateOf {cs : List Char} {e : TextFault} (h : dateOf cs = .error e) :
    e.IsTextual := by
  rcases dateOf_eq cs with hdate | ⟨year, month, day, hdate⟩ |
    ⟨zone, year, month, day, hour, minute, second, micro, hzone, hdate⟩
  · rw [hdate] at h
    cases h
    rintro n ⟨⟩
  · rw [hdate] at h
    rcases error_of_bind h with h | ⟨d, -, h⟩
    · exact isTextual_of_dayOf h
    · cases h
  · rw [hdate] at h
    rcases error_of_bind h with h | ⟨offset, -, h⟩
    · obtain ⟨problem, rfl⟩ := hzone e h
      rintro n ⟨⟩
    · exact isTextual_of_momentOf h

theorem isTextual_of_bytesOf {cs : List Char} {e : TextFault} (h : bytesOf cs = .error e) :
    e.IsTextual := by
  rw [bytesOf] at h
  split at h
  · obtain ⟨e', -, rfl⟩ := error_of_mapError h
    rintro n ⟨⟩
  · cases h
    rintro n ⟨⟩

theorem isTextual_of_truthOf {cs : List Char} {e : TextFault} (h : truthOf cs = .error e) :
    e.IsTextual := by
  rw [truthOf] at h
  split at h
  · cases h
  · split at h
    · cases h
    · cases h
      rintro n ⟨⟩

/-- Whatever the tag, a number that is read from a scalar is at fault by its text or its size. -/
theorem isTextual_of_reader {r : String × (List Char → Except TextFault Value)}
    (hr : r ∈ scalarReaders) {cs : List Char} {e : TextFault} (h : r.2 cs = .error e) :
    e.IsTextual := by
  simp only [scalarReaders, List.mem_cons, List.not_mem_nil, or_false] at hr
  rcases hr with rfl | rfl | rfl | rfl | rfl | rfl | rfl
  · cases h
  · exact isTextual_of_truthOf (error_of_map h)
  · exact isTextual_of_wholeNumber (error_of_map h)
  · exact isTextual_of_realNumber (error_of_map h)
  · exact isTextual_of_bytesOf h
  · exact isTextual_of_dateOf h
  · cases h

/-! ### Parts of a document -/

/-- If a computation fails by the text of a scalar, a number in it is at fault by text or size. -/
def Textual {α : Type} (x : Except Fault α) : Prop := ∀ e, x = .error (.text e) → e.IsTextual

namespace Textual

variable {α β : Type}

theorem ok (a : α) : Textual (.ok a) := by
  rintro e ⟨⟩

theorem complaint (c : Complaint) : Textual (.error (.complaint c) : Except Fault α) := by
  rintro e ⟨⟩

theorem bind {x : Except Fault α} {f : α → Except Fault β} (hx : Textual x)
    (hf : ∀ a, Textual (f a)) : Textual (x.bind f) := by
  intro e h
  rcases error_of_bind h with h | ⟨a, -, h⟩
  · exact hx e h
  · exact hf a e h

theorem map {x : Except Fault α} (f : α → β) (hx : Textual x) : Textual (x.map f) :=
  fun e h => hx e (error_of_map h)

theorem mapM {xs : List α} {f : α → Except Fault β} (hf : ∀ a, Textual (f a)) :
    Textual (xs.mapM f) := by
  intro e h
  obtain ⟨a, -, ha⟩ := error_of_mapM h
  exact hf a e ha

theorem mapError {ε : Type} {x : Except ε α} {f : ε → Fault} (hf : ∀ e e', f e ≠ .text e') :
    Textual (x.mapError f) := by
  intro e h
  obtain ⟨e', -, he'⟩ := error_of_mapError h
  exact absurd he' (hf e' e)

end Textual

namespace Node

theorem textual_scalarValue? (fuel : Nat) (n : Node) : Textual (n.scalarValue? fuel) := by
  rw [scalarValue?]
  split
  · rename_i t read hfind
    refine .bind (.mapError (by rintro e e' ⟨⟩)) fun text => ?_
    have hread := @isTextual_of_reader _ (List.mem_of_find?_eq_some hfind) text.toList
    split
    · rintro e ⟨⟩ n ⟨⟩
    · split
      · exact .ok _
      · exact .complaint _
      · exact .complaint _
      · rename_i e _ _ he
        rintro e' ⟨⟩
        exact hread he
  · split
    · exact .ok _
    · exact .complaint _

theorem textual_later (fuel : Nat) (n : Node) : Textual (n.later fuel) :=
  .map _ (textual_scalarValue? fuel n)

theorem textual_checkEntry (fuel : Nat) (outer : Node) (e : Node × Node) :
    Textual (checkEntry fuel outer e) := by
  refine .bind (textual_later fuel e.1) fun key => ?_
  split
  · exact .complaint _
  · exact .bind (textual_later fuel e.2) fun value => .ok _

theorem textual_checkPair (fuel : Nat) (outer : Node) (doing : String) (item : Node) :
    Textual (checkPair fuel outer doing item) := by
  rw [checkPair]
  split
  · exact .bind (textual_later fuel _) fun key => .bind (textual_later fuel _) fun value => .ok _
  · exact .complaint _
  · exact .complaint _

theorem textual_checkPairs (fuel : Nat) (n : Node) (doing : String) :
    Textual (checkPairs fuel n doing) := by
  rw [checkPairs.eq_def]
  split
  · exact .map _ (.mapM fun item => textual_checkPair fuel _ doing item)
  · exact .ok _
  · exact .complaint _

theorem textual_checkParts (fuel : Nat) (n : Node) : Textual (checkParts fuel n) := by
  rw [checkParts.eq_def]
  split
  · split
    · exact .map _ (.mapM fun item => textual_later fuel item)
    · exact .ok _
    · exact .complaint _
  · split
    · exact textual_checkPairs fuel n _
    · split
      · exact textual_checkPairs fuel n _
      · split
        · refine .bind (.mapError (by rintro e e' ⟨⟩)) fun es => ?_
          exact .map _ (.mapM fun e => textual_checkEntry fuel _ e)
        · exact .ok _
        · exact .complaint _

theorem textual_checkAll (depth fuel : Nat) (ns : List Node) :
    Textual (checkAll depth fuel ns) := by
  induction fuel generalizing ns with
  | zero => exact .ok _
  | succ fuel ih =>
    cases ns with
    | nil => exact .ok _
    | cons n ns => exact .bind (.mapM fun n => textual_checkParts depth n) fun inner => ih _

end Node

theorem textual_valueOf (cs : List Char) : Textual (valueOf cs) := by
  rw [valueOf]
  split
  · rintro e ⟨⟩
  · refine .bind (.mapError (by rintro e e' ⟨⟩)) fun root => ?_
    split
    · exact .ok _
    · refine .bind (Node.textual_later _ _) fun first => ?_
      exact .bind (Node.textual_checkAll _ _ _) fun _ => .ok _

theorem isForeign_iff {cs : List Char} {e : Fault} (h : valueOf cs = .error e) :
    e.isForeign = true ↔ e.class ≠ .malformed ∧ e.class ≠ .badValue := by
  cases e with
  | document e => cases e <;> simp [Fault.isForeign, Fault.class]
  | complaint c => simp [Fault.isForeign, Fault.class]
  | unacceptable c n => simp [Fault.isForeign, Fault.class]
  | text e =>
    cases e with
    | number n =>
      rcases textual_valueOf cs _ h n rfl with hn | rfl
      · cases n <;> simp_all [Fault.isForeign, TextFault.isForeign, Fault.class, NumberFault.class]
      · simp [Fault.isForeign, TextFault.isForeign, Fault.class, NumberFault.class]
    | _ => simp [Fault.isForeign, TextFault.isForeign, Fault.class]

end Yaml

end Docent
