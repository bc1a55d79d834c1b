import Docent.Proofs.Indented.AlikeRules
import Docent.Proofs.Indented.Endings
import Docent.Proofs.Indented.Parse

/-!
# Parses that go alike

Over two lists of tokens that differ at the end of the source only, the rules are run alike, and the
tokens that no rule looked at have the same to say. Main statement: a source and the same source
with an empty line more are both accepted, with trees that differ in the blanks at their ends, or
both refused, with refusals that differ in the last line only, unless the source ends with a line
that is to be continued.
-/

namespace Docent.Indented

open Reader

variable {last : Nat} {α β γ δ : Type}

/-! ### Running the rules -/

theorem alike_remembered (r : Rule) {p : Reader Forest} (hp : Alike last Eq p p) :
    Alike last Eq (remembered r p) (remembered r p) := by
  refine ⟨fun {src src'} hsrc pos m => ?_⟩
  have h := hp.near hsrc pos m
  unfold remembered
  split
  · split
    · exact .done rfl _ m
    · exact .miss m
    · generalize p src pos m = o at h
      generalize p src' pos m = o' at h
      cases h with
      | done h pos m =>
        cases h
        exact .done rfl pos _
      | miss m => exact .miss _
      | halt h m => exact .halt h m
  · exact h

instance runsAlike_run (names : List Char → Option Char) (fuel : Nat) :
    RunsAlike last (run names fuel) := by
  induction fuel with
  | zero => exact ⟨fun _ => alike_fail⟩
  | succ fuel ih =>
    refine ⟨fun r => ⟨fun {src src'} hsrc pos m => ?_⟩⟩
    exact (alike_remembered r (alike_step (run names fuel) r)).near (hsrc.withCheck _) pos m

theorem alike_wholeSource (self : Rule → Reader Forest) [RunsAlike last self] :
    Alike last Ended (wholeSource self) (wholeSource self) :=
  alike_bind_of (R := Eq) inferInstance fun a _ ha => ha ▸
    alike_bind_of alike_finish fun _ _ hf => ⟨fun _ pos m => .done (hf.append a) pos m⟩

/-! ### What the tokens ahead have to say -/

/-- What is said of two results that are near each other. -/
inductive Parsed (last : Nat) (R : α → β → Prop) :
    Except Refusal α → Except Refusal β → Prop
  | ok {a : α} {b : β} (h : R a b) : Parsed last R (.ok a) (.ok b)
  | error {r r' : Refusal} (h : r.Near last r') : Parsed last R (.error r) (.error r')

theorem Parsed.refl {R : α → α → Prop} (hR : ∀ a, R a a) (x : Except Refusal α) :
    Parsed last R x x := by
  cases x with
  | ok a => exact .ok (hR a)
  | error r => exact .error (.refl r)

theorem Parsed.map {R : α → β → Prop} {S : γ → δ → Prop} {f : α → γ} {g : β → δ}
    {x : Except Refusal α} {y : Except Refusal β} (h : Parsed last R x y)
    (hfg : ∀ a b, R a b → S (f a) (g b)) : Parsed last S (x.map f) (y.map g) := by
  cases h with
  | ok h => exact .ok (hfg _ _ h)
  | error h => exact .error h

theorem Parsed.exists_ok {R : α → β → Prop} {a : α} {x : Except Refusal β}
    (h : Parsed last R (.ok a) x) : ∃ b, x = .ok b ∧ R a b := by
  cases h with
  | ok h => exact ⟨_, rfl, h⟩

theorem Parsed.exists_error {R : α → β → Prop} {r : Refusal} {x : Except Refusal β}
    (h : Parsed last R (.error r) x) : ∃ r', x = .error r' ∧ r.Near last r' := by
  cases h with
  | error h => exact ⟨_, rfl, h⟩

theorem refusal_getD {o o' : Option Refusal} {r r' : Refusal}
    (h : Option.Rel (Refusal.Near last) o o') (hr : r.Near last r') :
    (o.getD r).Near last (o'.getD r') := by
  cases h with
  | none => exact hr
  | some h => exact h

namespace Source.Near

variable {src src' : Source}

theorem lineBefore (h : src.Near last src') (n : Nat) :
    LineNear last (Indented.lineBefore src.tokens n) (Indented.lineBefore src'.tokens n) := by
  cases n with
  | zero => exact .refl 1
  | succ n =>
    have ht := h.tokens n
    rw [Indented.lineBefore, Indented.lineBefore]
    generalize src.tokens[n]? = o at ht
    generalize src'.tokens[n]? = o' at ht
    cases ht with
    | none => exact .refl 1
    | some ht => exact ht.line

theorem conclude (h : src.Near last src')
    (hahead : ∀ n, Option.Rel (Refusal.Near last) (refusalAhead? src n) (refusalAhead? src' n))
    {r r' : Refusal} (hr : r.Near last r') (n : Nat) :
    (Indented.conclude src r n).Near last (Indented.conclude src' r' n) := by
  rw [Indented.conclude, Indented.conclude, h.size]
  split
  · exact hr
  · exact refusal_getD (hahead n) hr

theorem unexplained (h : src.Near last src')
    (hahead : ∀ n, Option.Rel (Refusal.Near last) (refusalAhead? src n) (refusalAhead? src' n))
    (stuck n : Nat) :
    (Indented.unexplained src stuck n).Near last (Indented.unexplained src' stuck n) := by
  have ht := h.tokens (stuck - 1)
  have hline := h.lineBefore n
  rw [Indented.unexplained, Indented.unexplained]
  generalize src.tokens[stuck - 1]? = o at ht
  generalize src'.tokens[stuck - 1]? = o' at ht
  cases ht with
  | none =>
    change Refusal.Near last ⟨src.report .invalid, none⟩ ⟨src'.report .invalid, none⟩
    rw [(h.report _).1, (h.report _).2]
    exact .refl _
  | @some t t' ht =>
    dsimp only
    rw [isClass_indent.eq_of_near ht, isClass_dedent.eq_of_near ht]
    split
    · exact h.refusal (.same _) hline
    · split
      · exact h.refusal (.same _) hline
      · exact refusal_getD (hahead n) (h.refusal (.same _) ht.line)

/-- A reader over a whole list of tokens gives the same, up to the relation of its results, or is
refused for the same, up to the last line. -/
theorem parseWhole (h : src.Near last src')
    (hahead : ∀ n, Option.Rel (Refusal.Near last) (refusalAhead? src n) (refusalAhead? src' n))
    {R : Forest → Forest → Prop} {p : Reader Forest} (hp : Alike last R p p) :
    Parsed last R (Indented.parseWhole src p) (Indented.parseWhole src' p) := by
  have hfirst := hp.near h 0 (.blank src.tokens.size 0 false)
  rw [Indented.parseWhole, Indented.parseWhole, h.size]
  generalize p src 0 (.blank src.tokens.size 0 false) = o at hfirst
  generalize p src' 0 (.blank src.tokens.size 0 false) = o' at hfirst
  cases hfirst with
  | done hr => exact .ok hr
  | halt hr m => exact .error (h.conclude hahead hr m.seen)
  | miss m =>
    have hsecond := hp.near h 0 (.blank src.tokens.size m.seen true)
    dsimp only
    generalize p src 0 (.blank src.tokens.size m.seen true) = o at hsecond
    generalize p src' 0 (.blank src.tokens.size m.seen true) = o' at hsecond
    cases hsecond with
    | done _ _ m' => exact .error (h.unexplained hahead m.seen m'.seen)
    | miss m' => exact .error (h.unexplained hahead m.seen m'.seen)
    | halt hr m' => exact .error (h.conclude hahead hr m'.seen)

end Source.Near

namespace Endings

variable {ts ts' : List Token}

/-- A token stands on the same line in both lists, or no broken token comes after it. -/
theorem line_eq_or (h : Endings last ts ts') (i : Nat) :
    (ts'[i]?).map Token.line = (ts[i]?).map Token.line ∨
      ∀ t ∈ ts.drop (i + 1), t.isBroken = false := by
  induction h generalizing i with
  | nil => exact .inl rfl
  | last =>
    cases i with
    | zero => exact .inr (List.forall_mem_nil _)
    | succ i => exact .inl rfl
  | cons t _ ih =>
    cases i with
    | zero => exact .inl rfl
    | succ i => exact ih i
  | dedent depth hl _ hts ih =>
    cases i with
    | zero => exact .inr hts
    | succ i => exact ih i

end Endings

/-- A source of the tokens of a list that is not an expression inside a string. -/
def sourceOf (names : List Char → Option Char) (ts : List Token) : Source :=
  ⟨ts.toArray, false, fun _ _ => none, names⟩

variable {ts ts' : List Token}

theorem Endings.near (h : Endings last ts ts') (names : List Char → Option Char) :
    (sourceOf names ts).Near last (sourceOf names ts') where
  size := h.forall₂.length_eq.symm
  tokens i := by
    rw [sourceOf, sourceOf, List.getElem?_toArray, List.getElem?_toArray]
    exact h.getElem? i
  whole := rfl
  whole' := rfl
  check := rfl
  names := rfl

/-- What a token ahead has to say where the last token looked at is on a line. -/
def tokenAhead? (src : Source) (line : Nat) (t : Token) : Option Refusal :=
  match t.kind with
  | .broken _ true _ => src.refusal? t
  | .broken _ false (some (c, opened)) =>
    if line > opened then some ⟨src.report (.neverClosed c), some opened⟩ else none
  | _ => none

theorem refusalAhead?_eq (src : Source) (n : Nat) :
    refusalAhead? src n =
      (src.tokens.toList.drop n).findSome? (tokenAhead? src (lineBefore src.tokens n)) := rfl

theorem tokenAhead?_of_not_isBroken (src : Source) (line : Nat) {t : Token}
    (h : t.isBroken = false) : tokenAhead? src line t = none := by
  unfold tokenAhead?
  split
  · rename_i hkind
    rw [Token.isBroken, hkind] at h
    cases h
  · rename_i hkind
    rw [Token.isBroken, hkind] at h
    cases h
  · rfl

theorem tokenAhead?_broken {src src' : Source} (h : src.Near last src') (line : Nat)
    {t t' : Token} (ht : t.Near last t') {f f' : Fault} {definite : Bool}
    {unclosed : Option (Char × Nat)} (hkind : t.kind = .broken f definite unclosed)
    (hkind' : t'.kind = .broken f' definite unclosed) :
    Option.Rel (Refusal.Near last) (tokenAhead? src line t) (tokenAhead? src' line t') := by
  have hrefusal := h.refusal? ht
  rw [tokenAhead?, tokenAhead?, hkind, hkind']
  cases definite with
  | true => exact hrefusal
  | false =>
    cases unclosed with
    | none => exact .none
    | some opening =>
      dsimp only
      rw [(h.report _).1, (h.report _).2]
      exact Refusal.Near.rel_refl _

theorem tokenAhead?_near {src src' : Source} (h : src.Near last src') (line : Nat) {t t' : Token}
    (ht : t.Near last t') :
    Option.Rel (Refusal.Near last) (tokenAhead? src line t) (tokenAhead? src' line t') := by
  cases ht with
  | same t =>
    cases hkind : t.kind with
    | broken f definite unclosed => exact tokenAhead?_broken h line (.same t) hkind hkind
    | _ =>
      have hno : t.isBroken = false := by rw [Token.isBroken, hkind]
      rw [tokenAhead?_of_not_isBroken src line hno, tokenAhead?_of_not_isBroken src' line hno]
      exact .none
  | dedent => exact .none
  | finish => exact .none
  | broken definite unclosed lead lead' depth hf hl =>
    exact tokenAhead?_broken h line (.broken definite unclosed lead lead' depth hf hl) rfl rfl

theorem findSome?_near {f g : Token → Option Refusal} {us us' : List Token}
    (h : List.Forall₂ (fun t t' => Option.Rel (Refusal.Near last) (f t) (g t')) us us') :
    Option.Rel (Refusal.Near last) (us.findSome? f) (us'.findSome? g) := by
  induction h with
  | nil => exact .none
  | @cons t t' us us' ht _ ih =>
    rw [List.findSome?_cons, List.findSome?_cons]
    generalize f t = o at ht
    generalize g t' = o' at ht
    cases ht with
    | none => exact ih
    | some hr => exact .some hr

theorem Endings.lineBefore_eq_or (h : Endings last ts ts') (names : List Char → Option Char)
    (n : Nat) :
    lineBefore (sourceOf names ts').tokens n = lineBefore (sourceOf names ts).tokens n ∨
      ∀ t ∈ ts.drop n, t.isBroken = false := by
  cases n with
  | zero => exact .inl rfl
  | succ n =>
    rw [lineBefore, lineBefore, sourceOf, sourceOf, List.getElem?_toArray, List.getElem?_toArray]
    exact (h.line_eq_or n).imp_left (congrArg (Option.getD · 1))

/-- The tokens that were not looked at have the same to say, up to the last line. -/
theorem Endings.refusalAhead? (h : Endings last ts ts') (names : List Char → Option Char)
    (n : Nat) :
    Option.Rel (Refusal.Near last) (Indented.refusalAhead? (sourceOf names ts) n)
      (Indented.refusalAhead? (sourceOf names ts') n) := by
  have hnear := h.near names
  have hdrop := List.forall₂_drop n h.forall₂
  rw [refusalAhead?_eq, refusalAhead?_eq]
  refine findSome?_near ?_
  change List.Forall₂ _ (ts.drop n) (ts'.drop n)
  -- where the last token looked at is on another line, no token ahead is broken
  rcases h.lineBefore_eq_or names n with hline | hno
  · rw [hline]
    exact hdrop.imp fun t t' ht => tokenAhead?_near hnear _ ht
  · refine ((List.forall₂_and_left _ _).2 ⟨hno, hdrop⟩).imp fun t t' ht => ?_
    obtain ⟨ht, hnear⟩ := ht
    rw [tokenAhead?_of_not_isBroken _ _ ht,
      tokenAhead?_of_not_isBroken _ _ (hnear.isBroken.trans ht)]
    exact .none

/-! ### Whole sources -/

/-- What the tokens of a source are read as. -/
def parseTokens (names : List Char → Option Char) (fuel : Nat) (ts : List Token) :
    Except Refusal Forest :=
  parseWhole (sourceOf names ts) (wholeSource (run names fuel))

theorem Endings.parseTokens (h : Endings last ts ts') (names : List Char → Option Char)
    (fuel : Nat) :
    Parsed last Ended (parseTokens names fuel ts) (parseTokens names fuel ts') :=
  (h.near names).parseWhole (h.refusalAhead? names) (alike_wholeSource (run names fuel))

theorem exists_isFinish_of_parseTokens {names : List Char → Option Char} {fuel : Nat}
    {cs : List Char} {f : Forest} (h : parseTokens names fuel (tokens cs) = .ok f) :
    ∃ t ∈ tokens cs, t.isFinish = true := by
  obtain ⟨pos, m, hrun⟩ := run_of_parseWhole h
  have htokens : Tokenizes cs (sourceOf names (tokens cs)).tokens.toList := tokens_tokenizes cs
  have hmeets := wholeSource_meets (run names fuel) _ 0 _ htokens.solid
    (Memory.isTrue_blank (sourceOf names (tokens cs)).tokens.size 0 false _)
  rw [hrun] at hmeets
  obtain ⟨-, -, k, t, -, ht, hfinish⟩ := hmeets
  exact ⟨t, List.mem_toArray.1 (Array.mem_of_getElem? ht), hfinish⟩

/-- A text that ends with a line and the same text with an empty line after it are read alike,
unless the text ends with a line that is to be continued; then it is refused. -/
theorem parseTokens_longer {cs : List Char} (h : EndsLine cs) (names : List Char → Option Char)
    (fuel : Nat) :
    Parsed (cs.count '\n') Ended (parseTokens names fuel (tokens cs))
        (parseTokens names fuel (tokens (cs ++ ['\n']))) ∨
      Continued cs ∧ ∀ f, parseTokens names fuel (tokens cs) ≠ .ok f := by
  refine (tokens_longer h).imp (fun hends => hends.parseTokens names fuel)
    fun ⟨hcont, hno⟩ => ⟨hcont, fun f hok => ?_⟩
  obtain ⟨t, ht, hfinish⟩ := exists_isFinish_of_parseTokens hok
  rw [hno t ht] at hfinish
  cases hfinish

end Docent.Indented
