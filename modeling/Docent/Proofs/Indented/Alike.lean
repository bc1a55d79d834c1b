import Docent.Proofs.Indented.Adding
import Docent.Proofs.Indented.Near

/-!
# Readers that go alike

Over two lists of tokens that differ at the end of the source only, a reader does the same: it
moves to the same place with the same result and the same memory, or it misses, or it halts with
refusals that differ in the last line only. Where a reader takes the line of a token, what it does
with the two lines is compared, so two readers are compared rather than one with itself. Instances
find out that readers are alike when the readers they are built from are.
-/

namespace Docent.Indented

variable {last : Nat} {α β γ δ : Type}

/-- Sources with tokens that are the same but at the end. -/
structure Source.Near (last : Nat) (src src' : Source) : Prop where
  size : src'.tokens.size = src.tokens.size
  tokens : ∀ i : Nat, Option.Rel (Token.Near last) src.tokens[i]? src'.tokens[i]?
  whole : src.embedded = false
  whole' : src'.embedded = false
  check : src'.checkEmbedded = src.checkEmbedded
  names : src'.names = src.names

inductive Outcome.Near (last : Nat) (R : α → β → Prop) : Outcome α → Outcome β → Prop
  | done {a : α} {b : β} (h : R a b) (pos : Nat) (m : Memory) :
    Near last R (.done a pos m) (.done b pos m)
  | miss (m : Memory) : Near last R (.miss m) (.miss m)
  | halt {r r' : Refusal} (h : r.Near last r') (m : Memory) : Near last R (.halt r m) (.halt r' m)

namespace Source.Near

variable {src src' : Source}

theorem report (h : src.Near last src') (f : Fault) : src.report f = f ∧ src'.report f = f :=
  ⟨by rw [Source.report, h.whole]; rfl, by rw [Source.report, h.whole']; rfl⟩

theorem withCheck (h : src.Near last src') (check : Nat → List Char → Option Refusal) :
    Source.Near last { src with checkEmbedded := check } { src' with checkEmbedded := check } :=
  ⟨h.size, h.tokens, h.whole, h.whole', rfl, h.names⟩

theorem refusal?_of_whole {src : Source} (h : src.embedded = false) (t : Token) :
    src.refusal? t = t.refusal? := by
  rw [Source.refusal?]
  split
  · rfl
  · rw [show src.report = id from funext fun f => by rw [Source.report, h]; rfl]
    exact Option.map_id'

theorem refusal (h : src.Near last src') {f f' : Fault} {l l' : Nat} (hf : Fault.Near last f f')
    (hl : LineNear last l l') :
    Refusal.Near last ⟨src.report f, some l⟩ ⟨src'.report f', some l'⟩ := by
  rw [(h.report f).1, (h.report f').2]
  exact ⟨hf, .some hl⟩

theorem refusal? (h : src.Near last src') {t t' : Token} (ht : t.Near last t') :
    Option.Rel (Refusal.Near last) (src.refusal? t) (src'.refusal? t') := by
  rw [refusal?_of_whole h.whole, refusal?_of_whole h.whole']
  cases ht with
  | same t => exact Refusal.Near.rel_refl t.refusal?
  | dedent => exact .none
  | finish => exact .none
  | broken definite unclosed lead lead' depth hf hl =>
    cases hf with
    | same f =>
      rw [Token.refusal?, Token.refusal?]
      dsimp only
      split
      · exact Refusal.Near.rel_refl _
      · exact .some ⟨.same _, .some hl⟩
      · exact .none
    | string h => exact .some ⟨.string h, .some hl⟩
    | blockString h => exact .some ⟨.blockString h, .some hl⟩
    | suite owner h => exact .some ⟨.suite owner h, .some hl⟩

theorem lastLine (h : src.Near last src') (m : Memory) :
    LineNear last (Reader.lastLine src m) (Reader.lastLine src' m) := by
  have ht := h.tokens (m.seen - 1)
  rw [Reader.lastLine, Reader.lastLine]
  generalize src.tokens[m.seen - 1]? = o at ht
  generalize src'.tokens[m.seen - 1]? = o' at ht
  cases ht with
  | none => exact .refl 1
  | some ht => exact ht.line

end Source.Near

namespace Reader

/-- Two readers that do the same over sources that are the same but at the end, with results of a
relation. -/
class Alike (last : Nat) (R : α → β → Prop) (p : Reader α) (q : Reader β) : Prop where
  near : ∀ {src src' : Source}, src.Near last src' → ∀ pos m,
    Outcome.Near last R (p src pos m) (q src' pos m)

variable {R : α → β → Prop} {S : γ → δ → Prop}

/-! ### Combinators -/

theorem alike_bind_of {p : Reader α} {q : Reader β} {f : α → Reader γ} {g : β → Reader δ}
    (hp : Alike last R p q) (hf : ∀ a b, R a b → Alike last S (f a) (g b)) :
    Alike last S (p >>= f) (q >>= g) := by
  refine ⟨fun {src src'} hsrc pos m => ?_⟩
  have h := hp.near hsrc pos m
  simp only [Bind.bind]
  generalize p src pos m = o at h
  generalize q src' pos m = o' at h
  cases h with
  | done h pos m => exact (hf _ _ h).near hsrc pos m
  | miss m => exact .miss m
  | halt h m => exact .halt h m

instance alike_bind {p q : Reader α} {f : α → Reader γ} {g : α → Reader δ} [hp : Alike last Eq p q]
    [hf : ∀ a, Alike last S (f a) (g a)] : Alike last S (p >>= f) (q >>= g) :=
  alike_bind_of hp fun a _ heq => heq ▸ hf a

instance alike_pure (a : α) : Alike last Eq (pure a : Reader α) (pure a) :=
  ⟨fun _ pos m => .done rfl pos m⟩

theorem alike_map {p q : Reader α} (f : α → γ) (hp : Alike last Eq p q) :
    Alike last Eq (f <$> p) (f <$> q) :=
  alike_bind_of hp fun a _ heq => heq ▸ alike_pure (f a)

instance alike_orElse {p : Reader α} {q : Reader β} {p' : Unit → Reader α} {q' : Unit → Reader β}
    [hp : Alike last R p q] [hq : Alike last R (p' ()) (q' ())] :
    Alike last R (HOrElse.hOrElse p p') (HOrElse.hOrElse q q') := by
  refine ⟨fun {src src'} hsrc pos m => ?_⟩
  have h := hp.near hsrc pos m
  change Outcome.Near last R (orElse p p' src pos m) (orElse q q' src' pos m)
  unfold orElse
  generalize p src pos m = o at h
  generalize q src' pos m = o' at h
  cases h with
  | done h pos m => exact .done h pos m
  | miss m => exact hq.near hsrc pos m
  | halt h m => exact .halt h m

theorem alike_commit_of {p : Reader α} {q : Reader β} {f : α → Reader γ} {g : β → Reader δ}
    {p' : Reader γ} {q' : Reader δ} (hp : Alike last R p q)
    (hf : ∀ a b, R a b → Alike last S (f a) (g b)) (hq : Alike last S p' q') :
    Alike last S (commit p f p') (commit q g q') := by
  refine ⟨fun {src src'} hsrc pos m => ?_⟩
  have h := hp.near hsrc pos m
  unfold commit
  generalize p src pos m = o at h
  generalize q src' pos m = o' at h
  cases h with
  | done h pos m => exact (hf _ _ h).near hsrc pos m
  | miss m => exact hq.near hsrc pos m
  | halt h m => exact .halt h m

instance alike_commit {p q : Reader Forest} {f g : Forest → Reader Forest} {p' q' : Reader Forest}
    [hp : Alike last Eq p q] [hf : ∀ a, Alike last Eq (f a) (g a)] [hq : Alike last Eq p' q'] :
    Alike last Eq (commit p f p') (commit q g q') :=
  alike_commit_of hp (fun a _ heq => heq ▸ hf a) hq

instance alike_fail : Alike last R (fail : Reader α) (fail : Reader β) := ⟨fun _ _ m => .miss m⟩

instance alike_ite {c : Prop} [Decidable c] {p p' : Reader α} {q q' : Reader β}
    [hp : Alike last R p q] [hq : Alike last R p' q'] :
    Alike last R (if c then p else p') (if c then q else q') := by
  split
  · exact hp
  · exact hq

section

variable {p p' q q' : Reader Forest}

instance alike_append [hp : Alike last Eq p p'] [hq : Alike last Eq q q'] :
    Alike last Eq (p ++ q) (p' ++ q') :=
  alike_bind_of hp fun a _ ha => ha ▸ alike_map (a ++ ·) hq

instance alike_ahead {p q : Reader α} [hp : Alike last Eq p q] :
    Alike last Eq (ahead p) (ahead q) := by
  refine ⟨fun {src src'} hsrc pos m => ?_⟩
  have h := hp.near hsrc pos m
  unfold ahead
  generalize p src pos m = o at h
  generalize q src' pos m = o' at h
  cases h with
  | done h pos' m => exact .done rfl pos m
  | miss m => exact .miss m
  | halt h m => exact .halt h m

instance alike_absent {p q : Reader α} [hp : Alike last Eq p q] :
    Alike last Eq (absent p) (absent q) := by
  refine ⟨fun {src src'} hsrc pos m => ?_⟩
  have h := hp.near hsrc pos m
  unfold absent
  generalize p src pos m = o at h
  generalize q src' pos m = o' at h
  cases h with
  | done h pos' m => exact .miss m
  | miss m => exact .done rfl pos m
  | halt h m => exact .halt h m

instance alike_opt [Alike last Eq p q] : Alike last Eq (opt p) (opt q) := by
  unfold opt
  infer_instance

theorem alike_repeatFor (hp : Alike last Eq p q) (fuel : Nat) :
    Alike last Eq (repeatFor fuel p) (repeatFor fuel q) := by
  induction fuel with
  | zero => exact alike_pure []
  | succ fuel ih =>
    refine ⟨fun {src src'} hsrc pos m => ?_⟩
    have h := hp.near hsrc pos m
    unfold repeatFor
    generalize p src pos m = o at h
    generalize q src' pos m = o' at h
    cases h with
    | done h pos' m =>
      subst h
      dsimp only
      split
      · exact .done rfl pos' m
      · exact (alike_map _ ih).near hsrc pos' m
    | miss m => exact .done rfl pos m
    | halt h m => exact .halt h m

instance alike_many [hp : Alike last Eq p q] : Alike last Eq (many p) (many q) := by
  refine alike_map _ ⟨fun {src src'} hsrc pos m => ?_⟩
  unfold manyList
  rw [hsrc.size]
  exact (alike_repeatFor hp _).near hsrc pos m

instance alike_many1 [Alike last Eq p q] : Alike last Eq (many1 p) (many1 q) := by
  unfold many1
  infer_instance

instance alike_sepBy [Alike last Eq p p'] [Alike last Eq q q'] :
    Alike last Eq (sepBy p q) (sepBy p' q') := by
  unfold sepBy
  infer_instance

theorem alike_extendFor {f g : Forest → Reader Forest} (hf : ∀ a, Alike last Eq (f a) (g a))
    (fuel : Nat) (a : Forest) : Alike last Eq (extendFor fuel a f) (extendFor fuel a g) := by
  induction fuel generalizing a with
  | zero => exact alike_pure a
  | succ fuel ih =>
    refine ⟨fun {src src'} hsrc pos m => ?_⟩
    have h := (hf a).near hsrc pos m
    unfold extendFor
    generalize f a src pos m = o at h
    generalize g a src' pos m = o' at h
    cases h with
    | done h pos' m =>
      subst h
      exact (ih _).near hsrc pos' m
    | miss m => exact .done rfl pos m
    | halt h m => exact .halt h m

instance alike_extend {f g : Forest → Reader Forest} [hp : Alike last Eq p q]
    [hf : ∀ a, Alike last Eq (f a) (g a)] : Alike last Eq (extend p f) (extend q g) := by
  refine alike_bind_of hp fun a _ heq => heq ▸ ⟨fun {src src'} hsrc pos m => ?_⟩
  rw [hsrc.size]
  exact (alike_extendFor hf _ a).near hsrc pos m

instance alike_node {k : Kind} [hp : Alike last Eq p q] : Alike last Eq (node k p) (node k q) :=
  alike_map (Tree.close k) hp

instance alike_form {f : Form} [Alike last Eq p q] : Alike last Eq (form f p) (form f q) :=
  alike_node

end

instance alike_explaining {p : Reader α} {q : Reader β} [hp : Alike last R p q] :
    Alike last R (explaining p) (explaining q) := by
  refine ⟨fun {src src'} hsrc pos m => ?_⟩
  unfold explaining
  split
  · exact hp.near hsrc pos m
  · exact .miss m

instance alike_plainly {p : Reader α} {q : Reader β} [hp : Alike last R p q] :
    Alike last R (plainly p) (plainly q) := by
  refine ⟨fun {src src'} hsrc pos m => ?_⟩
  have h := hp.near hsrc pos { m with explain := false }
  unfold plainly
  dsimp only
  generalize p src pos { m with explain := false } = o at h
  generalize q src' pos { m with explain := false } = o' at h
  cases h with
  | done h pos' m => exact .done h pos' _
  | miss m => exact .miss _
  | halt h m => exact .halt h _

/-! ### Refusals -/

instance alike_refuse {f f' : Fault} {l l' : Nat} [hf : Fault.Near last f f']
    [hl : LineNear last l l'] : Alike last R (refuse f l : Reader α) (refuse f' l' : Reader β) :=
  ⟨fun hsrc _ m => .halt (hsrc.refusal hf hl) m⟩

instance alike_refuseHere {f f' : Fault} [hf : Fault.Near last f f'] :
    Alike last R (refuseHere f : Reader α) (refuseHere f' : Reader β) :=
  ⟨fun hsrc _ m => .halt (hsrc.refusal hf (hsrc.lastLine m)) m⟩

end Reader

def Placed (last : Nat) (r r' : Tree × Nat) : Prop := r'.1 = r.1 ∧ LineNear last r.2 r'.2

theorem Placed.of_line (t : Tree) {l l' : Nat} (h : LineNear last l l') :
    Placed last (t, l) (t, l') := ⟨rfl, h⟩

mutual

theorem core_placed {l l' : Nat} (h : LineNear last l l') :
    (t : Tree) → Placed last (core l t) (core l' t)
  | .leaf k cs => .of_line _ h
  | .node k kids => by
    rw [core.eq_def, core.eq_def]
    split
    · rename_i heq
      cases heq
      exact coreIn_placed h _ kids
    · exact .of_line _ h

theorem coreIn_placed {l l' : Nat} (h : LineNear last l l') (whole : Tree) :
    (ts : List Tree) → Placed last (coreIn l whole ts) (coreIn l' whole ts)
  | [] => by
    rw [coreIn, coreIn]
    exact .of_line _ h
  | t :: ts => by
    rw [coreIn, coreIn]
    split
    · exact core_placed h t
    · exact coreIn_placed (.add t.newlines) whole ts

end

theorem expressionOf_placed {l l' : Nat} (h : LineNear last l l') (f : Forest) :
    Placed last (expressionOf l f) (expressionOf l' f) := by
  unfold expressionOf
  split
  · exact core_placed h _
  · exact .of_line _ h

mutual

theorem badTarget?_placed (place : TargetPlace) {l l' : Nat} (h : LineNear last l l') :
    (t : Tree) → Option.Rel (Placed last) (badTarget? place l t) (badTarget? place l' t)
  | .leaf k cs => by
    rw [badTarget?.eq_def, badTarget?.eq_def]
    dsimp only
    split
    · exact .none
    · exact .some (.of_line _ h)
  | .node k kids => by
    rw [badTarget?.eq_def, badTarget?.eq_def]
    dsimp only
    split
    · exact badTargetAmong?_placed place h kids
    · exact badTargetAmong?_placed place h kids
    · exact badTargetAmong?_placed place h kids
    · split
      · exact .some (.of_line _ h)
      · exact badTargetAmong?_placed place h kids
    · split
      · split
        · exact badTargetFirst?_placed place h kids
        · exact .none
      · exact .some (.of_line _ h)
    · exact .none
    · exact .none
    · exact .none
    · exact .some (.of_line _ h)

theorem badTargetAmong?_placed (place : TargetPlace) {l l' : Nat} (h : LineNear last l l') :
    (ts : List Tree) →
      Option.Rel (Placed last) (badTargetAmong? place l ts) (badTargetAmong? place l' ts)
  | [] => by
    rw [badTargetAmong?, badTargetAmong?]
    exact .none
  | t :: ts => by
    have hfirst : Option.Rel (Placed last) (if isForm t then badTarget? place l t else none)
        (if isForm t then badTarget? place l' t else none) := by
      split
      · exact badTarget?_placed place h t
      · exact .none
    rw [badTargetAmong?, badTargetAmong?]
    generalize (if isForm t then badTarget? place l t else none) = o at hfirst
    generalize (if isForm t then badTarget? place l' t else none) = o' at hfirst
    cases hfirst with
    | none => exact badTargetAmong?_placed place (.add t.newlines) ts
    | some hr => exact .some hr

theorem badTargetFirst?_placed (place : TargetPlace) {l l' : Nat} (h : LineNear last l l') :
    (ts : List Tree) →
      Option.Rel (Placed last) (badTargetFirst? place l ts) (badTargetFirst? place l' ts)
  | [] => by
    rw [badTargetFirst?, badTargetFirst?]
    exact .none
  | t :: ts => by
    rw [badTargetFirst?, badTargetFirst?]
    split
    · exact badTarget?_placed place h t
    · exact badTargetFirst?_placed place (.add t.newlines) ts

end

namespace Reader

variable {R : α → β → Prop} {l l' : Nat}

instance alike_refuseTarget [h : LineNear last l l'] (place : TargetPlace) (f : Forest) :
    Alike last R (refuseTarget place l f : Reader α) (refuseTarget place l' f : Reader β) := by
  have hbad : Option.Rel (Placed last) ((solid f).head?.bind (badTarget? place l))
      ((solid f).head?.bind (badTarget? place l')) := by
    cases (solid f).head? with
    | none => exact .none
    | some t => exact badTarget?_placed place h t
  unfold refuseTarget
  generalize (solid f).head?.bind (badTarget? place l) = o at hbad
  generalize (solid f).head?.bind (badTarget? place l') = o' at hbad
  cases hbad with
  | none => exact alike_fail
  | @some r r' hr =>
    obtain ⟨t, k⟩ := r
    obtain ⟨t', k'⟩ := r'
    obtain ⟨rfl, hline⟩ := hr
    have : LineNear last k k' := hline
    exact alike_refuse

instance alike_refuseForm [h : LineNear last l l'] (fault : Form → Fault) (f : Forest) :
    Alike last R (refuseForm fault l f : Reader α) (refuseForm fault l' f : Reader β) := by
  obtain ⟨htree, hline⟩ := expressionOf_placed h f
  change Alike last R (refuse (fault (formOf (expressionOf l f).1)) (expressionOf l f).2)
    (refuse (fault (formOf (expressionOf l' f).1)) (expressionOf l' f).2)
  rw [htree]
  exact alike_refuse

instance alike_refuseAt [h : LineNear last l l'] (fault : Fault) (f : Forest) :
    Alike last R (refuseAt fault l f : Reader α) (refuseAt fault l' f : Reader β) := by
  have := (expressionOf_placed h f).2
  unfold refuseAt
  exact alike_refuse

/-! ### Tokens -/

theorem alike_peek : Alike last (Token.Near last) peek peek := by
  refine ⟨fun {src src'} hsrc pos m => ?_⟩
  have h := hsrc.tokens pos
  unfold peek
  dsimp only
  generalize src.tokens[pos]? = o at h
  generalize src'.tokens[pos]? = o' at h
  cases h with
  | none => exact .miss _
  | @some t t' ht =>
    have hrefusal := hsrc.refusal? ht
    dsimp only
    generalize src.refusal? t = r at hrefusal
    generalize src'.refusal? t' = r' at hrefusal
    cases hrefusal with
    | none => exact .done ht pos _
    | some hr => exact .halt hr _

theorem alike_peek_bind {f : Token → Reader α} {g : Token → Reader β}
    (hf : ∀ t t', t.Near last t' → Alike last R (f t) (g t')) :
    Alike last R (peek >>= f) (peek >>= g) :=
  alike_bind_of alike_peek hf

/-- The lines of two tokens that differ in the last line only. -/
structure Lines (last : Nat) where
  first : Nat
  second : Nat
  near : LineNear last first second

instance lineNear_lines (p : Lines last) : LineNear last p.first p.second := p.near

instance alike_line_bind {f : Nat → Reader α} {g : Nat → Reader β}
    [hf : ∀ p : Lines last, Alike last R (f p.first) (g p.second)] :
    Alike last R (line >>= f) (line >>= g) := by
  have hline : Alike last (LineNear last) line line :=
    alike_bind_of alike_peek fun t t' ht => ⟨fun _ pos m => .done ht.line pos m⟩
  exact alike_bind_of hline fun l l' h => hf ⟨l, l', h⟩

instance alike_depth : Alike last Eq depth depth := by
  refine ⟨fun {src src'} hsrc pos m => ?_⟩
  have h := hsrc.tokens (pos - 1)
  unfold depth
  generalize src.tokens[pos - 1]? = o at h
  generalize src'.tokens[pos - 1]? = o' at h
  cases h with
  | none => exact .done rfl pos m
  | some ht => exact .done (by cases ht <;> rfl) pos m

instance alike_advance : Alike last Eq advance advance := ⟨fun _ pos m => .done rfl (pos + 1) m⟩

/-- A class of tokens to which the end of the source does not belong and which tells none of two
tokens from the other that differ in the last line only. -/
structure IsClass (last : Nat) (p : Token → Bool) : Prop where
  eq_of_near : ∀ {t t'}, t.Near last t' → p t' = p t
  isLast : ∀ {t}, p t = true → t.isFinish = false ∧ t.isBroken = false

theorem IsClass.leaves {p : Token → Bool} (hp : IsClass last p) {t t' : Token}
    (h : t.Near last t') (ht : p t = true) (k : Kind) : leaves k t' = leaves k t := by
  obtain ⟨hfinish, hbroken⟩ := hp.isLast ht
  cases h with
  | same t => rfl
  | dedent => rfl
  | finish => cases hfinish
  | broken => cases hbroken

theorem IsClass.alike {p : Token → Bool} (hp : IsClass last p) (k : Kind) :
    Alike last Eq (tokenOf p k) (tokenOf p k) := by
  refine alike_peek_bind fun t t' h => ?_
  rw [hp.eq_of_near h]
  split
  · rename_i ht
    rw [hp.leaves h ht k]
    infer_instance
  · exact alike_fail

theorem isLast_of_isSolid {t : Token} (h : t.isSolid = true) :
    t.isFinish = false ∧ t.isBroken = false := by
  cases hkind : t.kind <;> simp_all [Token.isSolid, Token.isFinish, Token.isBroken]

theorem isClass_symbol (s : String) : IsClass last (Token.isSymbol s) where
  eq_of_near h := by cases h <;> rfl
  isLast h := isLast_of_isSolid (isSolid_of_isSymbol h)

theorem isClass_anySym (ss : List String) :
    IsClass last (fun t => ss.any (Token.isSymbol · t)) where
  eq_of_near h := by simp only [(isClass_symbol _).eq_of_near h]
  isLast h := by
    obtain ⟨s, -, hs⟩ := List.any_eq_true.1 h
    exact isLast_of_isSolid (isSolid_of_isSymbol hs)

theorem isClass_word (s : String) : IsClass last (Token.isWord s) where
  eq_of_near h := by cases h <;> rfl
  isLast h := isLast_of_isSolid (isSolid_of_isName (Bool.and_eq_true _ _ ▸ h).1)

theorem isClass_name : IsClass last Token.isName where
  eq_of_near h := by cases h <;> rfl
  isLast h := isLast_of_isSolid (isSolid_of_isName h)

theorem isClass_string : IsClass last Token.isString where
  eq_of_near h := by cases h <;> rfl
  isLast h := isLast_of_isSolid (isSolid_of_isString h)

theorem isClass_newline : IsClass last Token.isNewline where
  eq_of_near h := by cases h <;> rfl
  isLast {t} h := by
    cases hkind : t.kind <;> simp_all [Token.isNewline, Token.isFinish, Token.isBroken]

theorem isClass_indent : IsClass last Token.isIndent where
  eq_of_near h := by cases h <;> rfl
  isLast {t} h := by
    cases hkind : t.kind <;> simp_all [Token.isIndent, Token.isFinish, Token.isBroken]

theorem isClass_dedent : IsClass last Token.isDedent where
  eq_of_near h := by cases h <;> rfl
  isLast {t} h := by
    cases hkind : t.kind <;> simp_all [Token.isDedent, Token.isFinish, Token.isBroken]

instance alike_symbol (s : String) (k : Kind) :
    Alike last Eq (tokenOf (Token.isSymbol s) k) (tokenOf (Token.isSymbol s) k) :=
  (isClass_symbol s).alike k
instance alike_sym (s : String) : Alike last Eq (sym s) (sym s) := alike_symbol s .token
instance alike_anySym (ss : List String) : Alike last Eq (anySym ss) (anySym ss) :=
  (isClass_anySym ss).alike .token
instance alike_word (s : String) : Alike last Eq (word s) (word s) := (isClass_word s).alike .token
instance alike_name (k : Kind) : Alike last Eq (name k) (name k) := isClass_name.alike k
instance alike_string (k : Kind) :
    Alike last Eq (tokenOf Token.isString k) (tokenOf Token.isString k) :=
  isClass_string.alike k
instance alike_newline : Alike last Eq newline newline := isClass_newline.alike .blank
instance alike_indent : Alike last Eq indent indent := isClass_indent.alike .blank
instance alike_dedent : Alike last Eq dedent dedent := isClass_dedent.alike .blank

instance alike_need (s : String) : Alike last Eq (need s) (need s) := by
  refine alike_peek_bind fun t t' h => ?_
  have hline := h.line
  rw [(isClass_symbol s).eq_of_near h]
  split
  · rename_i ht
    rw [(isClass_symbol s).leaves h ht]
    infer_instance
  · infer_instance

instance alike_numberLiteral : Alike last Eq numberLiteral numberLiteral := by
  refine alike_peek_bind fun t t' h => ?_
  cases h with
  | same t => infer_instance
  | dedent => exact alike_fail
  | finish => exact alike_fail
  | broken => exact alike_fail

/-- Nothing but blanks. -/
def Vacant (f : Forest) : Prop := ∀ t ∈ f, ∃ cs, t = Tree.leaf .blank cs

theorem vacant_leaves {t : Token} (h : t.text = []) : Vacant (leaves .blank t) := by
  intro u hu
  rw [leaves, h] at hu
  split at hu
  · cases hu
  · exact ⟨_, List.mem_singleton.1 hu⟩

/-- Two forests that are the same up to blanks at their ends. -/
def Ended (f f' : Forest) : Prop :=
  ∃ g v v', f = g ++ v ∧ f' = g ++ v' ∧ Vacant v ∧ Vacant v'

namespace Ended

theorem refl (f : Forest) : Ended f f :=
  ⟨f, [], [], (List.append_nil f).symm, (List.append_nil f).symm, List.forall_mem_nil _,
    List.forall_mem_nil _⟩

theorem of_vacant {f f' : Forest} (h : Vacant f) (h' : Vacant f') : Ended f f' :=
  ⟨[], f, f', rfl, rfl, h, h'⟩

theorem append (g : Forest) {f f' : Forest} (h : Ended f f') : Ended (g ++ f) (g ++ f') := by
  obtain ⟨u, v, v', rfl, rfl, hv, hv'⟩ := h
  exact ⟨g ++ u, v, v', (List.append_assoc g u v).symm, (List.append_assoc g u v').symm, hv, hv'⟩

end Ended

theorem alike_finish : Alike last Ended finish finish := by
  refine alike_peek_bind fun t t' h => ?_
  cases h with
  | same t =>
    split
    · exact alike_bind_of alike_advance fun _ _ _ => ⟨fun _ pos m => .done (.refl _) pos m⟩
    · exact alike_fail
  | dedent => exact alike_fail
  | broken => exact alike_fail
  | finish lead lead' depth hl =>
    refine alike_bind_of alike_advance fun _ _ _ => ⟨fun _ pos m => .done (.of_vacant ?_ ?_) pos m⟩
    · exact vacant_leaves rfl
    · exact vacant_leaves rfl

/-! ### String literals -/

theorem stringTokens_eq {src src' : Source} (hsrc : src.Near last src') (fuel pos : Nat) :
    stringTokens src' fuel pos = stringTokens src fuel pos := by
  induction fuel generalizing pos with
  | zero => rfl
  | succ fuel ih =>
    have h := hsrc.tokens pos
    rw [stringTokens, stringTokens]
    generalize src.tokens[pos]? = o at h
    generalize src'.tokens[pos]? = o' at h
    cases h with
    | none => rfl
    | some ht =>
      cases ht with
      | same t => rw [ih]
      | dedent => rfl
      | finish => rfl
      | broken => rfl

instance alike_raiseIssue (issue : StringIssue) :
    Alike last Eq (raiseIssue issue) (raiseIssue issue) := by
  cases issue with
  | here f => exact alike_refuseHere
  | embedded r => exact ⟨fun _ _ m => .halt (.refl r) m⟩

instance alike_stringLiterals : Alike last Eq stringLiterals stringLiterals := by
  refine alike_bind_of (R := Eq) inferInstance fun parts parts' hparts => ?_
  subst hparts
  refine ⟨fun {src src'} hsrc pos m => ?_⟩
  dsimp only
  rw [stringTokens_eq hsrc, hsrc.names, hsrc.check]
  split
  · exact (alike_raiseIssue _).near hsrc pos m
  · rename_i r _
    rw [(hsrc.report _).1, (hsrc.report _).2]
    exact .halt (.refl r) m
  · exact .done rfl pos m

end Reader

end Docent.Indented
