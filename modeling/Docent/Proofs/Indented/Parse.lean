import Docent.Proofs.Except
import Docent.Proofs.Indented.Rules

/-!
# Parsing loses no text

Main statement: the tree of an accepted source is tidy and its text is the readable form of the
source.
-/

namespace Docent.Indented

open Reader

/-! ### Memories -/

theorem Memory.recall_note (m : Memory) {rule rule' : Rule} {pos pos' : Nat}
    {r r' : Option (Forest × Nat)} (h : (m.note rule pos r).recall rule' pos' = some r') :
    (pos = pos' ∧ rule = rule' ∧ r = r') ∨ m.recall rule' pos' = some r' := by
  rw [Memory.recall, note, Array.getElem?_modify] at h
  split at h
  · rename_i hpos
    subst hpos
    cases hkept : m.results[pos]? with
    | none =>
      rw [hkept] at h
      cases h
    | some kept =>
      rw [hkept, Option.map_some, Option.getD_some, List.lookup_cons] at h
      split at h
      · rename_i hrule
        exact .inl ⟨rfl, (eq_of_beq hrule).symm, Option.some.inj h⟩
      · exact .inr (by rw [Memory.recall, hkept, Option.getD_some, h])
  · exact .inr h

theorem Memory.isTrue_note {m : Memory} {src : Source} (hm : m.IsTrue src) (rule : Rule) (pos : Nat)
    {r : Option (Forest × Nat)}
    (hr : ∀ f pos', r = some (f, pos') → src.Extends rule.level [] pos f pos' ∧ rule.Gives f) :
    (m.note rule pos r).IsTrue src := by
  intro rule' pos' f k h
  rcases m.recall_note h with ⟨rfl, rfl, hsame⟩ | hkept
  · exact hr f k hsame
  · exact hm rule' pos' f k hkept

theorem Memory.isTrue_blank (size seen : Nat) (explain : Bool) (src : Source) :
    (Memory.blank size seen explain).IsTrue src := by
  intro rule pos f pos' h
  rw [Memory.recall, blank, Array.getElem?_replicate] at h
  split at h <;> cases h

/-! ### Running the rules -/

/-- What a rule reads is told by its level and by what it gives. -/
def Rule.Reads (rule : Rule) (src : Source) (i : Nat) (f : Forest) (j : Nat) : Prop :=
  src.Extends rule.level [] i f j ∧ rule.Gives f

theorem meets_remembered {rule : Rule} {p : Reader Forest} (hp : p.Meets rule.Reads) :
    (remembered rule p).Meets rule.Reads := by
  intro src pos m hsrc hm
  have hrun := hp src pos m hsrc hm
  unfold remembered
  split
  · split
    · rename_i f pos' h
      exact ⟨hm, hm rule pos f pos' h⟩
    · exact hm
    · revert hrun
      cases p src pos m with
      | done f pos' m' =>
        rintro ⟨hm', hf⟩
        refine ⟨Memory.isTrue_note hm' _ _ ?_, hf⟩
        rintro f' k ⟨⟩
        exact hf
      | miss m' => exact fun hm' => Memory.isTrue_note hm' _ _ nofun
      | halt r m' => exact id
  · exact hrun

theorem meets_run (names : List Char → Option Char) (fuel : Nat) (rule : Rule) :
    (run names fuel rule).Meets rule.Reads := by
  induction fuel generalizing rule with
  | zero => exact .fail
  | succ fuel ih =>
    intro src pos m hsrc hm
    have hruns : Runs (run names fuel) :=
      ⟨fun r => ⟨(ih r).mono fun _ _ _ _ h => h.1⟩, fun r => ⟨(ih r).mono fun _ _ _ _ h => h.2⟩⟩
    have hstep := (adds_step (run names fuel) rule).meets.and (gives_step (run names fuel) rule).meets
    -- the checker of embedded expressions has no part in what is read
    exact meets_remembered hstep { src with checkEmbedded := _ } pos m hsrc hm

instance runs_run (names : List Char → Option Char) (fuel : Nat) : Runs (run names fuel) :=
  ⟨fun r => ⟨(meets_run names fuel r).mono fun _ _ _ _ h => h.1⟩,
    fun r => ⟨(meets_run names fuel r).mono fun _ _ _ _ h => h.2⟩⟩

/-! ### Whole sources -/

theorem finish_meets :
    finish.Meets fun src i f j => src.Extends .all [] i f j ∧
      ∃ k t, j = k + 1 ∧ src.tokens[k]? = some t ∧ t.isFinish = true := by
  refine (Meets.tokenOf _ _).mono fun src i f j h => ⟨h.extension (fun _ _ => .inl rfl)
    fun t _ _ => Level.all.allows_leaf .blank nofun t.text, ?_⟩
  obtain ⟨t, ht, -, hfinish, -, hj⟩ := h
  exact ⟨i, t, hj, ht, hfinish⟩

theorem wholeSource_meets (self : Rule → Reader Forest) [Runs self] :
    (wholeSource self).Meets fun src i f j => src.Extends .all [] i f j ∧
      ∃ k t, j = k + 1 ∧ src.tokens[k]? = some t ∧ t.isFinish = true :=
  .append (adds_opt (ℓ := .all) (p := self .statements)).meets finish_meets
    fun _ _ f _ _ _ hf ⟨hg, hlast⟩ => ⟨hf.trans (hg.append f), hlast⟩

theorem run_of_parseWhole {src : Source} {p : Reader Forest} {f : Forest}
    (h : parseWhole src p = .ok f) :
    ∃ pos m, p src 0 (.blank src.tokens.size 0 false) = .done f pos m := by
  unfold parseWhole at h
  split at h
  · rename_i pos m hrun
    cases h
    exact ⟨pos, m, hrun⟩
  · cases h
  · split at h <;> cases h

theorem text_of_parseWhole (self : Rule → Reader Forest) [Runs self]
    {src : Source} {cs : List Char} {f : Forest} (htokens : Tokenizes cs src.tokens.toList)
    (h : parseWhole src (wholeSource self) = .ok f) :
    Tree.textOfList f = cs ∧ Tree.TidyAll f ∧ Level.all.Holds f := by
  obtain ⟨pos, m, hrun⟩ := run_of_parseWhole h
  have hmeets := wholeSource_meets self src 0 _ htokens.solid
    (Memory.isTrue_blank src.tokens.size 0 false src)
  rw [hrun] at hmeets
  obtain ⟨-, ⟨⟨text, hf, hbefore⟩, htidy, hlevel⟩, k, t, rfl, ht, hfinish⟩ := hmeets
  refine ⟨?_, htidy trivial, hlevel (Tree.everywhere_nil _)⟩
  rw [← Array.getElem?_toList] at ht
  calc Tree.textOfList f = text := hf
    _ = src.before (k + 1) := by rw [hbefore]; rfl
    _ = cs := htokens.text_of_finish ht hfinish

theorem forest_of_parse {names : List Char → Option Char} {cs : List Char} {t : Tree}
    (h : parse names cs = .ok t) : ∃ f, t = .node .item f ∧
      Tree.textOfList f = readable cs ∧ Tree.TidyAll f ∧ Level.all.Holds f := by
  unfold parse at h
  split at h
  · cases h
  · obtain ⟨f, hwhole, rfl⟩ := ok_of_map h
    exact ⟨f, rfl, text_of_parseWhole _ (tokens_tokenizes (readable cs)) hwhole⟩

/-- The tree of an accepted source is tidy, and its text is the readable form of the source. -/
theorem text_of_parse {names : List Char → Option Char} {cs : List Char} {t : Tree}
    (h : parse names cs = .ok t) : t.text = readable cs ∧ t.Tidy := by
  obtain ⟨f, rfl, htext, htidy, -⟩ := forest_of_parse h
  exact ⟨htext, isPlain_item.inner, htidy⟩

theorem allows_of_parse {names : List Char → Option Char} {cs : List Char} {t : Tree}
    (h : parse names cs = .ok t) : ∀ u ∈ t.preorder, Level.all.Allows u := by
  obtain ⟨f, rfl, -, -, hlevel⟩ := forest_of_parse h
  rw [Tree.preorder]
  exact List.forall_mem_cons.2 ⟨Level.allows_of_quiet rfl .all, hlevel⟩

/-- In an accepted source each definition has the parts of one. -/
theorem isDefined_of_parse {names : List Char → Option Char} {cs : List Char} {t : Tree}
    (h : parse names cs = .ok t) : ∀ u ∈ t.preorder, IsDefined u :=
  fun u hu => (allows_of_parse h u hu).1

theorem isCalled_of_parse {names : List Char → Option Char} {cs : List Char} {t : Tree}
    (h : parse names cs = .ok t) : ∀ u ∈ t.preorder, IsCalled u :=
  fun u hu => (allows_of_parse h u hu).2

/-- In each class of an accepted source there are no definitions and no suites before its keyword. -/
theorem isKeyed_of_parse {names : List Char → Option Char} {cs : List Char} {t : Tree}
    (h : parse names cs = .ok t) : ∀ u ∈ t.preorder, IsKeyed u :=
  fun u hu => (isDefined_of_parse h u hu).isKeyed

end Docent.Indented
