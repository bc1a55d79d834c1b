import Docent.Proofs.Scan.Reading

/-!
# What readers do before a known text

Where the text that is left is known, so is what a reader does there: it misses, or it reads a
certain forest and leaves a certain text. What is remembered must not stand against that; from a
place on, at most misses are remembered there, and before the end none of rules that are only asked
for where they read something.
-/

namespace Docent.Scan

/-- How a grammar separates tokens, the size of a whole text, and the rules that miss nowhere before
its end. -/
structure Setting (ρ : Type) where
  gaps : Gaps
  text : ∀ raw, Tree.textOfList (gaps raw).1 ++ (gaps raw).2 = raw
  size : Nat
  Sure : ρ → Prop

namespace Setting

variable {ρ α β : Type} (S : Setting ρ)

/-- Whether a rule may be remembered to miss after a number of characters. -/
def MayMiss (n : Nat) (rule : ρ) : Prop := S.size ≤ n ∨ ¬ S.Sure rule

/-- From a number of characters on, nothing but misses is remembered. -/
def Idle (n : Nat) (m : Memory ρ) : Prop :=
  ∀ k, n ≤ k → ∀ e ∈ (m.results[k]?).getD [], e.2 = none ∧ S.MayMiss k e.1

/-- The number of characters before what is left of the text. -/
def start (raw : List Char) : Nat := S.size - raw.length

/-- The place where so much is left of the text. -/
def left (raw : List Char) : Place := .of S.gaps raw (S.start raw)

/-- What is remembered where so much of the text is left. -/
structure Ready (raw : List Char) (m : Memory ρ) : Prop where
  fits : raw.length ≤ S.size
  idle : S.Idle (S.start raw) m

/-- A reader misses before a text. -/
def Misses (r : Reader ρ α) (raw : List Char) : Prop :=
  ∀ m, S.Ready raw m → ∃ m', r S.gaps (S.left raw) m = .miss m' ∧ S.Ready raw m'

/-- A reader reads a forest before a text and leaves another text. -/
def Goes (r : Reader ρ Forest) (raw : List Char) (f : Forest) (raw' : List Char) : Prop :=
  ∀ m, S.Ready raw m → ∃ m', r S.gaps (S.left raw) m = .done f (S.left raw') m' ∧ S.Ready raw' m'

variable {S}

theorem idle_blank (n far size : Nat) : S.Idle n ⟨far, Array.replicate size []⟩ := by
  intro k _ e he
  rw [Array.getElem?_replicate] at he
  split at he <;> cases he

theorem Idle.note {n k : Nat} {m : Memory ρ} (h : S.Idle n m) (e : ρ × Option (Forest × Place))
    (he : n ≤ k → e.2 = none ∧ S.MayMiss k e.1) :
    S.Idle n { m with results := m.results.modify k (e :: ·) } := by
  intro i hi e' he'
  have hkept := h i hi
  rw [Array.getElem?_modify] at he'
  split at he'
  · rename_i hik
    subst hik
    cases hresults : m.results[k]? with
    | none =>
      rw [hresults] at he'
      cases he'
    | some kept =>
      rw [hresults, Option.map_some, Option.getD_some] at he'
      rcases List.mem_cons.1 he' with rfl | he'
      · exact he hi
      · exact hkept e' (by rw [hresults]; exact he')
  · exact hkept e' he'

theorem start_lt {raw raw' : List Char} (h : raw'.length < raw.length)
    (hsize : raw.length ≤ S.size) : S.start raw < S.start raw' := by
  rw [start, start]
  omega

theorem Ready.mono {raw raw' : List Char} {m : Memory ρ} (h : S.Ready raw m)
    (hle : raw'.length ≤ raw.length) (far : Nat) : S.Ready raw' { m with far } := by
  refine ⟨Nat.le_trans hle h.fits, fun i hi => h.idle i (Nat.le_trans ?_ hi)⟩
  rw [start, start]
  omega

/-! ### Readers that miss -/

section

variable {r s : Reader ρ Forest} {raw raw' raw'' : List Char} {f g : Forest}

theorem misses_fail : S.Misses (Reader.fail : Reader ρ α) raw := fun m hm => ⟨m, rfl, hm⟩

theorem misses_bind {r : Reader ρ α} {k : α → Reader ρ β} (h : S.Misses r raw) :
    S.Misses (r >>= k) raw := by
  intro m hm
  obtain ⟨m', hrun, hm'⟩ := h m hm
  exact ⟨m', by rw [Reader.run_bind, hrun], hm'⟩

theorem misses_append (h : S.Misses r raw) : S.Misses (r ++ s) raw := misses_bind h

theorem misses_assoc {t : Reader ρ Forest} (h : S.Misses (r ++ (s ++ t)) raw) :
    S.Misses (r ++ s ++ t) raw := by
  intro m hm
  obtain ⟨m', hrun, hm'⟩ := h m hm
  refine ⟨m', ?_, hm'⟩
  rw [Reader.run_append] at hrun ⊢
  rw [Reader.run_append]
  revert hrun
  cases r S.gaps (S.left raw) m with
  | miss m' => exact id
  | done f p' m' =>
    dsimp only
    rw [Reader.run_append]
    cases s S.gaps p' m' with
    | miss m' => exact id
    | done g p'' m'' =>
      dsimp only
      cases t S.gaps p'' m'' with
      | miss m' => exact id
      | done => exact fun h => by cases h

theorem misses_orElse (hr : S.Misses r raw) (hs : S.Misses s raw) : S.Misses (r <|> s) raw := by
  intro m hm
  obtain ⟨m', hrun, hm'⟩ := hr m hm
  obtain ⟨m'', hrun', hm''⟩ := hs m' hm'
  exact ⟨m'', by rw [Reader.run_orElse, hrun]; exact hrun', hm''⟩

theorem misses_ite {c : Prop} [Decidable c] (hr : S.Misses r raw) (hs : S.Misses s raw) :
    S.Misses (if c then r else s) raw := by
  split
  · exact hr
  · exact hs

theorem misses_node {k : Kind} (h : S.Misses r raw) : S.Misses (Reader.node k r) raw :=
  misses_bind h

theorem misses_ahead (h : S.Misses r raw) : S.Misses (Reader.ahead r) raw := by
  intro m hm
  obtain ⟨m', hrun, hm'⟩ := h m hm
  exact ⟨m', by rw [Reader.ahead, hrun], hm'⟩

theorem misses_many1 (h : S.Misses r raw) : S.Misses (Reader.many1 r) raw := misses_bind h

theorem misses_sepBy (h : S.Misses r raw) : S.Misses (Reader.sepBy r s) raw := misses_bind h

theorem misses_extend {step : Forest → Reader ρ Forest} (h : S.Misses r raw) :
    S.Misses (Reader.extend r step) raw :=
  misses_bind h

theorem misses_anySym {ss : List String}
    (h : ∀ s ∈ ss, S.Misses (Reader.sym s : Reader ρ Forest) raw) :
    S.Misses (Reader.anySym ss : Reader ρ Forest) raw := by
  induction ss with
  | nil => exact misses_fail
  | cons s ss ih =>
    obtain ⟨hs, hss⟩ := List.forall_mem_cons.1 h
    exact misses_orElse hs (ih hss)

theorem misses_tokenOf {gap : Forest} {cs : List Char} (hgap : S.gaps raw = (gap, cs))
    {shape : Shape} {kind : Kind} (h : shape cs = none) :
    S.Misses (Reader.tokenOf shape kind) raw := by
  have hrest : shape (S.left raw).rest = none := by
    rw [left, Place.of, hgap]
    exact h
  exact fun m hm => ⟨m, by rw [Reader.tokenOf, Shape.split?, hrest]; rfl, hm⟩

theorem misses_remembered [DecidableEq ρ] {rule : ρ} (h : S.Misses r raw)
    (hrule : S.MayMiss (S.start raw) rule) : S.Misses (Reader.remembered rule r) raw := by
  intro m hm
  rw [Reader.remembered]
  split
  · rename_i f p' hlookup
    obtain ⟨before, after, hresults, -⟩ := List.lookup_eq_some_iff.1 hlookup
    have hmem : (rule, some (f, p')) ∈ (m.results[S.start raw]?).getD [] := by
      rw [show S.start raw = (S.left raw).start from rfl, hresults]
      simp
    cases (hm.idle _ (Nat.le_refl _) _ hmem).1
  · exact ⟨m, rfl, hm⟩
  · obtain ⟨m', hrun, hm'⟩ := h m hm
    rw [hrun]
    exact ⟨_, rfl, hm'.fits, hm'.idle.note (rule, none) fun _ => ⟨rfl, hrule⟩⟩

/-! ### Readers that stay or go on -/

theorem goes_pure (f : Forest) (raw : List Char) : S.Goes (pure f) raw f raw :=
  fun m hm => ⟨m, rfl, hm⟩

theorem Goes.append (hr : S.Goes r raw f raw') (hs : S.Goes s raw' g raw'') :
    S.Goes (r ++ s) raw (f ++ g) raw'' := by
  intro m hm
  obtain ⟨m', hrun, hm'⟩ := hr m hm
  obtain ⟨m'', hrun', hm''⟩ := hs m' hm'
  exact ⟨m'', by rw [Reader.run_append, hrun]; dsimp only; rw [hrun'], hm''⟩

theorem Goes.misses_append (hr : S.Goes r raw f raw) (hs : S.Misses s raw) :
    S.Misses (r ++ s) raw := by
  intro m hm
  obtain ⟨m', hrun, hm'⟩ := hr m hm
  obtain ⟨m'', hrun', hm''⟩ := hs m' hm'
  exact ⟨m'', by rw [Reader.run_append, hrun]; dsimp only; rw [hrun'], hm''⟩

theorem Goes.orElse (h : S.Goes r raw f raw') : S.Goes (r <|> s) raw f raw' := by
  intro m hm
  obtain ⟨m', hrun, hm'⟩ := h m hm
  exact ⟨m', by rw [Reader.run_orElse, hrun], hm'⟩

theorem Misses.orElse (hr : S.Misses r raw) (hs : S.Goes s raw f raw') :
    S.Goes (r <|> s) raw f raw' := by
  intro m hm
  obtain ⟨m', hrun, hm'⟩ := hr m hm
  obtain ⟨m'', hrun', hm''⟩ := hs m' hm'
  exact ⟨m'', by rw [Reader.run_orElse, hrun]; exact hrun', hm''⟩

theorem Goes.node {k : Kind} (h : S.Goes r raw f raw') :
    S.Goes (Reader.node k r) raw (Tree.close k f) raw' := by
  intro m hm
  obtain ⟨m', hrun, hm'⟩ := h m hm
  exact ⟨m', by rw [Reader.node, Reader.run_map, hrun], hm'⟩

theorem goes_opt (h : S.Misses r raw) : S.Goes (Reader.opt r) raw [] raw :=
  h.orElse (goes_pure [] raw)

theorem goes_absent (h : S.Misses r raw) : S.Goes (Reader.absent r) raw [] raw := by
  intro m hm
  obtain ⟨m', hrun, hm'⟩ := h m hm
  exact ⟨{ m' with far := m.far }, by rw [Reader.absent, hrun], hm'.mono (Nat.le_refl _) m.far⟩

theorem misses_opt_append (hr : S.Misses r raw) (hs : S.Misses s raw) :
    S.Misses (Reader.opt r ++ s) raw :=
  (goes_opt hr).misses_append hs

theorem misses_absent_append (hr : S.Misses r raw) (hs : S.Misses s raw) :
    S.Misses (Reader.absent r ++ s) raw :=
  (goes_absent hr).misses_append hs

/-- A reader that goes on again and again until it misses. -/
inductive Repeats (S : Setting ρ) (r : Reader ρ Forest) : List Char → Forest → List Char → Prop
  | stop {raw : List Char} : S.Misses r raw → Repeats S r raw [] raw
  | turn {raw raw' raw'' : List Char} {f g : Forest} : S.Goes r raw f raw' →
      raw'.length < raw.length → Repeats S r raw' g raw'' → Repeats S r raw (f ++ g) raw''

theorem Repeats.goes_repeatOver (h : Repeats S r raw f raw') (bound : List Char)
    (hbound : raw.length ≤ bound.length) : S.Goes (Reader.repeatOver r bound) raw f raw' := by
  -- every turn shortens what is left, so that the bound is never reached before the end
  induction h generalizing bound with
  | stop hr =>
    cases bound with
    | nil => exact goes_pure [] _
    | cons c bound =>
      intro m hm
      obtain ⟨m', hrun, hm'⟩ := hr m hm
      refine ⟨m', ?_, hm'⟩
      rw [Reader.repeatOver]
      dsimp only
      rw [hrun]
  | turn hr hlt _ ih =>
    cases bound with
    | nil => exact absurd (Nat.lt_of_lt_of_le hlt hbound) (Nat.not_lt_zero _)
    | cons c bound =>
      rw [List.length_cons] at hbound
      intro m hm
      obtain ⟨m', hrun, hm'⟩ := hr m hm
      obtain ⟨m'', hrun', hm''⟩ := ih bound (by omega) m' hm'
      have hmoved := Nat.not_le_of_lt (start_lt hlt hm.fits)
      refine ⟨m'', ?_, hm''⟩
      rw [Reader.repeatOver]
      dsimp only
      rw [hrun]
      dsimp only
      rw [Reader.run_map, hrun']
      exact if_neg hmoved

theorem Repeats.goes_many (h : Repeats S r raw f raw') : S.Goes (Reader.many r) raw f raw' :=
  fun m hm => h.goes_repeatOver raw (Nat.le_refl _) m hm

theorem goes_many (h : S.Misses r raw) : S.Goes (Reader.many r) raw [] raw :=
  (Repeats.stop h).goes_many

theorem misses_many_append (hr : S.Misses r raw) (hs : S.Misses s raw) :
    S.Misses (Reader.many r ++ s) raw :=
  (goes_many hr).misses_append hs

theorem goes_remembered [DecidableEq ρ] {rule : ρ} (h : S.Goes r raw f raw')
    (hrule : S.Sure rule) (hlt : raw'.length < raw.length) :
    S.Goes (Reader.remembered rule r) raw f raw' := by
  intro m hm
  have hnot : ¬ S.MayMiss (S.start raw) rule := by
    have hfits := hm.fits
    rw [MayMiss, start, not_or, not_not]
    exact ⟨by omega, hrule⟩
  have hnew : ((m.results[(S.left raw).start]?).getD []).lookup rule = none := by
    refine List.lookup_eq_none_iff.2 fun e he => bne_iff_ne.2 fun heq => hnot ?_
    rw [heq]
    exact (hm.idle _ (Nat.le_refl _) e he).2
  obtain ⟨m', hrun, hm'⟩ := h m hm
  rw [Reader.remembered, hnew]
  dsimp only
  rw [hrun]
  refine ⟨_, rfl, hm'.fits, hm'.idle.note (rule, some (f, S.left raw')) fun hle => ?_⟩
  exact absurd (start_lt hlt hm.fits) (Nat.not_lt_of_le hle)

theorem goes_tokenOf {gap : Forest} {lexeme : List Char}
    (hgap : S.gaps raw = (gap, lexeme ++ raw')) {shape : Shape} {kind : Kind}
    (h : shape (lexeme ++ raw') = some lexeme.length) :
    S.Goes (Reader.tokenOf shape kind) raw (gap ++ [.leaf kind lexeme]) raw' := by
  intro m hm
  have htext := S.text raw
  rw [hgap] at htext
  have hlength : _ = raw.length := congrArg List.length htext
  rw [List.length_append, List.length_append] at hlength
  dsimp only at hlength
  have hplace : S.left raw = ⟨raw, S.start raw, gap, lexeme ++ raw',
      S.start raw + (Tree.textOfList gap).length⟩ := by
    rw [left, Place.of, hgap]
  have hfits := hm.fits
  have hstart : S.start raw + (Tree.textOfList gap).length + lexeme.length = S.start raw' := by
    rw [start, start]
    omega
  refine ⟨{ m with far := max m.far (S.left raw').pos }, ?_, hm.mono (by omega) _⟩
  rw [Reader.tokenOf, Shape.split?, hplace, h]
  simp [Reader.moveTo, hstart, left]

theorem goes_sym {gap : Forest} (s : String) (hgap : S.gaps raw = (gap, s.toList ++ raw')) :
    S.Goes (Reader.sym s) raw (gap ++ [.leaf .token s.toList]) raw' := by
  refine goes_tokenOf hgap ?_
  rw [Shape.exactly, if_pos (List.isPrefixOf_iff_prefix.2 (List.prefix_append _ _)),
    String.length_toList]

theorem goes_rawTokenOf {lexeme : List Char} {shape : Shape} {kind : Kind}
    (h : shape (lexeme ++ raw') = some lexeme.length) :
    S.Goes (Reader.rawTokenOf shape kind) (lexeme ++ raw') [.leaf kind lexeme] raw' := by
  intro m hm
  have hfits := hm.fits
  rw [List.length_append] at hfits
  have hstart : S.start (lexeme ++ raw') + lexeme.length = S.start raw' := by
    rw [start, start, List.length_append]
    omega
  refine ⟨{ m with far := max m.far (S.left raw').pos }, ?_, hm.mono (by simp) _⟩
  rw [Reader.rawTokenOf, Shape.split?, show (S.left (lexeme ++ raw')).raw = lexeme ++ raw' from rfl,
    h]
  simp [Reader.moveTo, ← hstart, left, Place.of]

theorem goes_finish {gap : Forest} (h : S.gaps raw = (gap, [])) :
    S.Goes Reader.finish raw gap [] := by
  intro m hm
  have htext : Tree.textOfList gap = raw := by
    have htext := S.text raw
    rwa [h, List.append_nil] at htext
  have hplace : S.left raw = ⟨raw, S.start raw, gap, [], S.start raw + raw.length⟩ := by
    rw [left, Place.of, h]
    dsimp only
    rw [htext]
  have hfits := hm.fits
  have hend : S.start raw + raw.length = S.start [] := by
    rw [start, start, List.length_nil]
    omega
  refine ⟨m, ?_, hm.mono (Nat.zero_le _) m.far⟩
  rw [Reader.finish, hplace, hend]
  rfl

end

/-! ### Whole texts -/

/-- A text without null characters is read as a reader reads it at its beginning. -/
theorem Goes.whole {r : Reader ρ Forest} {cs rest : List Char} {f : Forest}
    (h : S.Goes r cs f rest) (hsize : S.size = cs.length) (hnull : Char.ofNat 0 ∉ cs) :
    Reader.whole S.gaps r cs = .ok (.node .item f) := by
  have hready : S.Ready cs ⟨0, .replicate (cs.length + 1) []⟩ :=
    ⟨Nat.le_of_eq hsize.symm, idle_blank _ 0 _⟩
  have hplace : S.left cs = .of S.gaps cs 0 := by
    rw [left, start, hsize, Nat.sub_self]
  obtain ⟨m, hrun, -⟩ := h _ hready
  unfold Reader.whole
  rw [if_neg (by rwa [List.contains_iff_mem]), ← hplace, hrun]

end Setting

end Docent.Scan
