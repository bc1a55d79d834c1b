import Docent.Proofs.Indented.Parse

/-!
# What readers do among known tokens

Where the tokens are known, so is what a reader does there: it misses, or it reads something and
goes on to another position. Rules are asked for again at positions where they have been run; what
is remembered of them there is what a table says.
-/

namespace Docent.Indented

open Reader

/-- Known tokens, and a table of what rules give at positions among them. -/
structure Setting where
  tokens : Array Token
  names : List Char → Option Char
  table : Nat → Rule → Option (Forest × Nat)

namespace Setting

variable (S : Setting) {α β : Type}

/-- The tokens as a source, with a checker of expressions in strings. -/
def source (check : Nat → List Char → Option Refusal) : Source := ⟨S.tokens, false, check, S.names⟩

/-- A memory that holds nothing but what the table says, while no errors are explained. -/
structure Ready (m : Memory) : Prop where
  plain : m.explain = false
  agrees : ∀ rule pos r, m.recall rule pos = some r → r = S.table pos rule

/-- A reader misses at a position. -/
def Misses (p : Reader α) (pos : Nat) : Prop :=
  ∀ check m, S.Ready m → ∃ m', p (S.source check) pos m = .miss m' ∧ S.Ready m'

/-- A reader reads something at a position and goes on to another. -/
def Goes (p : Reader α) (pos : Nat) (a : α) (pos' : Nat) : Prop :=
  ∀ check m, S.Ready m → ∃ m', p (S.source check) pos m = .done a pos' m' ∧ S.Ready m'

/-- A reader reads a forest and goes on, or it misses. -/
def Gives (p : Reader Forest) (pos : Nat) : Option (Forest × Nat) → Prop
  | some (f, pos') => S.Goes p pos f pos'
  | none => S.Misses p pos

/-- A token that is not broken stands at a position. -/
def At (pos : Nat) (t : Token) : Prop := S.tokens[pos]? = some t ∧ t.isBroken = false

variable {S} {p q : Reader Forest} {pos pos' pos'' : Nat} {f g : Forest} {r : Option (Forest × Nat)}

/-! ### Readers that miss -/

theorem misses_fail : S.Misses (fail : Reader α) pos := fun _ m hm => ⟨m, rfl, hm⟩

theorem misses_bind {p : Reader α} {k : α → Reader β} (h : S.Misses p pos) :
    S.Misses (p >>= k) pos := by
  intro check m hm
  obtain ⟨m', hrun, hm'⟩ := h check m hm
  exact ⟨m', by simp only [Bind.bind, hrun], hm'⟩

theorem misses_append (h : S.Misses p pos) : S.Misses (p ++ q) pos := misses_bind h

theorem misses_node {k : Kind} (h : S.Misses p pos) : S.Misses (node k p) pos := misses_bind h

theorem misses_form {k : Form} (h : S.Misses p pos) : S.Misses (form k p) pos := misses_node h

theorem misses_many1 (h : S.Misses p pos) : S.Misses (many1 p) pos := misses_append h

theorem misses_sepBy (h : S.Misses p pos) : S.Misses (sepBy p q) pos := misses_append h

theorem misses_extend {step : Forest → Reader Forest} (h : S.Misses p pos) :
    S.Misses (extend p step) pos :=
  misses_bind h

theorem misses_orElse {p q : Reader α} (hp : S.Misses p pos) (hq : S.Misses q pos) :
    S.Misses (p <|> q) pos := by
  intro check m hm
  obtain ⟨m', hrun, hm'⟩ := hp check m hm
  obtain ⟨m'', hrun', hm''⟩ := hq check m' hm'
  refine ⟨m'', ?_, hm''⟩
  show Reader.orElse p (fun _ => q) _ _ _ = _
  rw [Reader.orElse, hrun]
  exact hrun'

theorem misses_commit {p : Reader α} {k : α → Reader β} {q : Reader β} (hp : S.Misses p pos)
    (hq : S.Misses q pos) : S.Misses (commit p k q) pos := by
  intro check m hm
  obtain ⟨m', hrun, hm'⟩ := hp check m hm
  obtain ⟨m'', hrun', hm''⟩ := hq check m' hm'
  exact ⟨m'', by rw [commit, hrun]; exact hrun', hm''⟩

theorem misses_ahead {p : Reader α} (h : S.Misses p pos) : S.Misses (ahead p) pos := by
  intro check m hm
  obtain ⟨m', hrun, hm'⟩ := h check m hm
  exact ⟨m', by rw [ahead, hrun], hm'⟩

theorem misses_explaining {p : Reader α} : S.Misses (explaining p) pos := by
  intro check m hm
  exact ⟨m, by rw [explaining, hm.plain]; rfl, hm⟩

/-! ### Readers that go on -/

theorem goes_pure (a : α) : S.Goes (pure a) pos a pos := fun _ m hm => ⟨m, rfl, hm⟩

theorem Goes.bind {p : Reader α} {k : α → Reader β} {a : α} {b : β} (hp : S.Goes p pos a pos')
    (hk : S.Goes (k a) pos' b pos'') : S.Goes (p >>= k) pos b pos'' := by
  intro check m hm
  obtain ⟨m', hrun, hm'⟩ := hp check m hm
  obtain ⟨m'', hrun', hm''⟩ := hk check m' hm'
  exact ⟨m'', by simp only [Bind.bind, hrun]; exact hrun', hm''⟩

theorem Goes.misses_bind {p : Reader α} {k : α → Reader β} {a : α} (hp : S.Goes p pos a pos')
    (hk : S.Misses (k a) pos') : S.Misses (p >>= k) pos := by
  intro check m hm
  obtain ⟨m', hrun, hm'⟩ := hp check m hm
  obtain ⟨m'', hrun', hm''⟩ := hk check m' hm'
  exact ⟨m'', by simp only [Bind.bind, hrun]; exact hrun', hm''⟩

theorem Goes.map {p : Reader α} {a : α} (hp : S.Goes p pos a pos') (k : α → β) :
    S.Goes (k <$> p) pos (k a) pos' :=
  hp.bind (goes_pure (k a))

theorem Goes.append (hp : S.Goes p pos f pos') (hq : S.Goes q pos' g pos'') :
    S.Goes (p ++ q) pos (f ++ g) pos'' :=
  hp.bind (hq.map (f ++ ·))

theorem Goes.misses_append (hp : S.Goes p pos f pos') (hq : S.Misses q pos') :
    S.Misses (p ++ q) pos :=
  hp.misses_bind (Setting.misses_bind hq)

theorem Goes.node (hp : S.Goes p pos f pos') (k : Kind) :
    S.Goes (Reader.node k p) pos (Tree.close k f) pos' :=
  hp.map _

theorem Goes.orElse {p q : Reader α} {a : α} (hp : S.Goes p pos a pos') :
    S.Goes (p <|> q) pos a pos' := by
  intro check m hm
  obtain ⟨m', hrun, hm'⟩ := hp check m hm
  refine ⟨m', ?_, hm'⟩
  show Reader.orElse p (fun _ => q) _ _ _ = _
  rw [Reader.orElse, hrun]

theorem Misses.orElse {p q : Reader α} {a : α} (hp : S.Misses p pos) (hq : S.Goes q pos a pos') :
    S.Goes (p <|> q) pos a pos' := by
  intro check m hm
  obtain ⟨m', hrun, hm'⟩ := hp check m hm
  obtain ⟨m'', hrun', hm''⟩ := hq check m' hm'
  refine ⟨m'', ?_, hm''⟩
  show Reader.orElse p (fun _ => q) _ _ _ = _
  rw [Reader.orElse, hrun]
  exact hrun'

theorem goes_opt (h : S.Misses p pos) : S.Goes (opt p) pos [] pos := h.orElse (goes_pure [])

theorem Goes.ahead {p : Reader α} {a : α} (h : S.Goes p pos a pos') :
    S.Goes (Reader.ahead p) pos [] pos := by
  intro check m hm
  obtain ⟨m', hrun, hm'⟩ := h check m hm
  exact ⟨m', by rw [Reader.ahead, hrun], hm'⟩

theorem goes_absent {p : Reader α} (h : S.Misses p pos) : S.Goes (absent p) pos [] pos := by
  intro check m hm
  obtain ⟨m', hrun, hm'⟩ := h check m hm
  exact ⟨m', by rw [absent, hrun], hm'⟩

/-! ### Readers of which it is told what they give -/

theorem Gives.misses_append (hp : S.Gives p pos r)
    (hq : ∀ f pos', r = some (f, pos') → S.Misses q pos') : S.Misses (p ++ q) pos := by
  cases r with
  | none => exact Setting.misses_append hp
  | some r => exact Goes.misses_append hp (hq r.1 r.2 rfl)

theorem Misses.gives (hp : S.Misses p pos) (hq : S.Gives q pos r) : S.Gives (p <|> q) pos r := by
  cases r with
  | none => exact misses_orElse hp hq
  | some r => exact Misses.orElse hp hq

theorem Gives.orElse (hp : S.Gives p pos r) (hq : r = none → S.Misses q pos) :
    S.Gives (p <|> q) pos r := by
  cases r with
  | none => exact misses_orElse hp (hq rfl)
  | some r => exact Goes.orElse hp

/-- A reader that is extended gives the same where no step of the extension can be taken. -/
theorem Gives.extend {step : Forest → Reader Forest} (hp : S.Gives p pos r)
    (hstep : ∀ f pos', r = some (f, pos') → S.Misses (step f) pos') :
    S.Gives (Reader.extend p step) pos r := by
  cases r with
  | none => exact misses_extend hp
  | some r =>
    refine Goes.bind hp fun check m hm => ?_
    obtain ⟨m', hrun, hm'⟩ := hstep r.1 r.2 rfl check m hm
    exact ⟨m', by simp only [extendFor, hrun], hm'⟩

/-! ### Repetition -/

/-- What a reader reads in turns, up to where it misses. -/
inductive Repeats (S : Setting) (p : Reader Forest) : Nat → Forest → Nat → Prop
  | stop (i : Nat) : S.Misses p i → Repeats S p i [] i
  | turn (i j k : Nat) (f g : Forest) : S.Goes p i f j → i < j → j ≤ S.tokens.size →
      Repeats S p j g k → Repeats S p i (f ++ g) k

theorem Repeats.goes_repeatFor (h : Repeats S p pos f pos') {fuel : Nat}
    (hfuel : S.tokens.size - pos < fuel) :
    ∃ fs : List Forest, fs.flatten = f ∧ S.Goes (repeatFor fuel p) pos fs pos' := by
  induction h generalizing fuel with
  | stop i h =>
    obtain ⟨fuel, rfl⟩ := Nat.exists_eq_succ_of_ne_zero (Nat.ne_of_gt (Nat.zero_lt_of_lt hfuel))
    refine ⟨[], rfl, fun check m hm => ?_⟩
    obtain ⟨m', hrun, hm'⟩ := h check m hm
    exact ⟨m', by simp only [repeatFor, hrun], hm'⟩
  | turn i j k f g h hlt hle _ ih =>
    obtain ⟨fuel, rfl⟩ := Nat.exists_eq_succ_of_ne_zero (Nat.ne_of_gt (Nat.zero_lt_of_lt hfuel))
    obtain ⟨fs, hfs, hrest⟩ := @ih fuel (by omega)
    refine ⟨f :: fs, by rw [List.flatten_cons, hfs], fun check m hm => ?_⟩
    obtain ⟨m', hrun, hm'⟩ := h check m hm
    obtain ⟨m'', hrun', hm''⟩ := hrest.map (f :: ·) check m' hm'
    refine ⟨m'', ?_, hm''⟩
    simp only [repeatFor, hrun]
    rw [if_neg (Nat.not_le.2 hlt)]
    exact hrun'

theorem Repeats.goes_many (h : Repeats S p pos f pos') : S.Goes (many p) pos f pos' := by
  obtain ⟨fs, rfl, hgoes⟩ := h.goes_repeatFor (Nat.lt_succ_self _)
  exact Goes.map (p := manyList p) (fun check m hm => hgoes check m hm) List.flatten

theorem goes_many (h : S.Misses p pos) : S.Goes (many p) pos [] pos := (Repeats.stop pos h).goes_many

/-! ### Tokens -/

theorem refusal?_of_not_broken {src : Source} {t : Token} (h : t.isBroken = false) :
    src.refusal? t = none := by
  unfold Source.refusal? Token.refusal?
  unfold Token.isBroken at h
  cases hkind : t.kind <;> simp_all

theorem goes_peek {t : Token} (h : S.At pos t) : S.Goes peek pos t pos := by
  intro check m hm
  refine ⟨{ m with seen := max m.seen (pos + 1) }, ?_, hm.plain, hm.agrees⟩
  rw [peek, show (S.source check).tokens[pos]? = some t from h.1]
  dsimp only
  rw [refusal?_of_not_broken h.2]

theorem goes_tokenOf {t : Token} (h : S.At pos t) {c : Token → Bool} (hc : c t = true) (k : Kind) :
    S.Goes (tokenOf c k) pos (leaves k t) (pos + 1) := by
  refine (goes_peek h).bind ?_
  rw [if_pos hc]
  exact Goes.bind (fun check m hm => ⟨m, rfl, hm⟩ : S.Goes advance pos () (pos + 1)) (goes_pure _)

theorem misses_tokenOf {t : Token} (h : S.At pos t) {c : Token → Bool} (hc : c t = false) (k : Kind) :
    S.Misses (tokenOf c k) pos := by
  refine (goes_peek h).misses_bind ?_
  rw [if_neg (by rw [hc]; nofun)]
  exact misses_fail

theorem goes_need {t : Token} (h : S.At pos t) {s : String} (hs : t.isSymbol s = true) :
    S.Goes (need s) pos (leaves .token t) (pos + 1) := by
  refine (goes_peek h).bind ?_
  rw [if_pos hs]
  exact Goes.bind (fun check m hm => ⟨m, rfl, hm⟩ : S.Goes advance pos () (pos + 1)) (goes_pure _)

/-! ### Rules -/

theorem Gives.remembered {rule : Rule} (h : S.Gives p pos r)
    (hrule : rule.isRemembered = true → S.table pos rule = r) :
    S.Gives (Indented.remembered rule p) pos r := by
  have hnote {m : Memory} (hm : S.Ready m) (htable : S.table pos rule = r) :
      S.Ready (m.note rule pos r) := by
    refine ⟨hm.plain, fun rule' pos' r' hr' => ?_⟩
    rcases m.recall_note hr' with ⟨rfl, rfl, rfl⟩ | hr'
    · exact htable.symm
    · exact hm.agrees _ _ _ hr'
  cases hremembered : rule.isRemembered with
  | false =>
    have hsame : Indented.remembered rule p = p := by
      funext src pos m
      rw [Indented.remembered, if_neg (by rw [hremembered]; nofun)]
    rwa [hsame]
  | true =>
    have htable := hrule hremembered
    cases r with
    | none | some =>
      intro check m hm
      rw [Indented.remembered, if_pos hremembered]
      -- what is remembered agrees with the table, and so does what is read now
      cases hrecall : m.recall rule pos with
      | some r' =>
        obtain rfl := (hm.agrees _ _ _ hrecall).trans htable
        exact ⟨m, rfl, hm⟩
      | none =>
        obtain ⟨m', hrun, hm'⟩ := h check m hm
        exact ⟨_, by dsimp only; rw [hrun], hnote hm' htable⟩

theorem Gives.run {rule : Rule} {fuel : Nat} (h : S.Gives (step (run S.names fuel) rule) pos r)
    (hrule : rule.isRemembered = true → S.table pos rule = r) :
    S.Gives (run S.names (fuel + 1) rule) pos r := by
  have hrun := h.remembered hrule
  cases r with
  | none => exact fun check m hm => hrun _ m hm
  | some r => exact fun check m hm => hrun _ m hm

/-- A reader that goes through all tokens reads the whole source. -/
theorem Goes.parseWhole (h : S.Goes p 0 f pos') (check : Nat → List Char → Option Refusal) :
    Indented.parseWhole (S.source check) p = .ok f := by
  have hblank : S.Ready (.blank S.tokens.size 0 false) := by
    refine ⟨rfl, fun rule pos r hr => ?_⟩
    rw [Memory.recall, Memory.blank, Array.getElem?_replicate] at hr
    split at hr <;> cases hr
  obtain ⟨m', hrun, -⟩ := h check _ hblank
  rw [Indented.parseWhole, show (S.source check).tokens = S.tokens from rfl, hrun]

end Setting

end Docent.Indented
