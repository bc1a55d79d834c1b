import Docent.Grammar.Scan
import Docent.Proofs.Shape

/-!
# What readers do between two places

A realm tells which places there are and what may be remembered. A reader that relies on it has to
leave it true; what relates the places before and after it to the forest between them is put together
from what the readers do that it is built from.
-/

namespace Docent.Scan

namespace Reader

variable {ρ α β : Type} (gaps : Gaps) (p : Place) (m : Memory ρ)

theorem run_bind (r : Reader ρ α) (k : α → Reader ρ β) : (r >>= k) gaps p m =
    match r gaps p m with
    | .done a p' m' => k a gaps p' m'
    | .miss m' => .miss m' := rfl

theorem run_orElse (r : Reader ρ α) (s : Unit → Reader ρ α) : (HOrElse.hOrElse r s) gaps p m =
    match r gaps p m with
    | .done a p' m' => .done a p' m'
    | .miss m' => s () gaps p m' := rfl

theorem run_append (r s : Reader ρ Forest) : (r ++ s) gaps p m =
    match r gaps p m with
    | .done f p' m' =>
      match s gaps p' m' with
      | .done g p'' m'' => .done (f ++ g) p'' m''
      | .miss m'' => .miss m''
    | .miss m' => .miss m' := by
  change (r >>= fun f => s >>= fun g => pure (f ++ g)) gaps p m = _
  rw [run_bind]
  cases r gaps p m with
  | miss m' => rfl
  | done f p' m' =>
    dsimp only
    rw [run_bind]
    cases s gaps p' m' <;> rfl

theorem run_map (g : Forest → Forest) (r : Reader ρ Forest) : (g <$> r) gaps p m =
    match r gaps p m with
    | .done f p' m' => .done (g f) p' m'
    | .miss m' => .miss m' := by
  change (r >>= fun f => pure (g f)) gaps p m = _
  rw [run_bind]
  cases r gaps p m <;> rfl

/-- A reader that reads nothing and stays where it is. -/
class Stays (r : Reader ρ Forest) : Prop where
  here : ∀ gaps p m, match r gaps p m with
    | .done f p' _ => f = [] ∧ p' = p
    | .miss _ => True

instance stays_nil : Stays (pure [] : Reader ρ Forest) := ⟨fun _ _ _ => ⟨rfl, rfl⟩⟩

instance stays_absent (r : Reader ρ α) : Stays (absent r) := by
  refine ⟨fun gaps p m => ?_⟩
  rw [absent]
  cases r gaps p m with
  | done f p' m' => trivial
  | miss m' => exact ⟨rfl, rfl⟩

instance stays_ite {c : Prop} [Decidable c] {r s : Reader ρ Forest} [hr : Stays r] [hs : Stays s] :
    Stays (if c then r else s) := by
  split
  · exact hr
  · exact hs

end Reader

/-- How a grammar separates tokens, the places that may be met on the way through a text, and what may
be remembered of a rule after a number of characters. -/
structure Realm (ρ : Type) where
  gaps : Gaps
  Has : Place → Prop
  Recalls : Nat → ρ → Forest → Place → Prop

namespace Realm

variable {ρ : Type} (R : Realm ρ)

/-! ### What is remembered -/

def IsTrue [BEq ρ] (m : Memory ρ) : Prop :=
  ∀ (pos : Nat) rule f p, ((m.results[pos]?).getD []).lookup rule = some (some (f, p)) →
    R.Recalls pos rule f p

variable {R} [DecidableEq ρ]

theorem isTrue_blank (far size : Nat) : R.IsTrue ⟨far, Array.replicate size []⟩ := by
  intro pos rule f p h
  rw [Array.getElem?_replicate] at h
  split at h <;> cases h

theorem isTrue_note {m : Memory ρ} (hm : R.IsTrue m) (rule : ρ) (pos : Nat)
    {out : Option (Forest × Place)} (hout : ∀ f p, out = some (f, p) → R.Recalls pos rule f p) :
    R.IsTrue { m with results := m.results.modify pos ((rule, out) :: ·) } := by
  intro pos' rule' f p h
  have hkept := hm pos' rule' f p
  rw [Array.getElem?_modify] at h
  split at h
  · rename_i hpos
    subst hpos
    cases hresults : m.results[pos]? with
    | none =>
      rw [hresults] at h
      cases h
    | some kept =>
      rw [hresults, Option.map_some, Option.getD_some, List.lookup_cons] at h
      split at h
      · rename_i hrule
        obtain rfl := eq_of_beq hrule
        exact hout f p (Option.some.inj h)
      · exact hkept (by rw [hresults]; exact h)
  · exact hkept h

/-! ### What readers do -/

variable (R)

/-- What an outcome leaves behind is of the realm, and what was read is related to the place after
it. -/
def LeadsTo (Q : Forest → Place → Prop) : Outcome ρ Forest → Prop
  | .done f p m => R.Has p ∧ R.IsTrue m ∧ Q f p
  | .miss m => R.IsTrue m

/-- A reader leaves behind what is of the realm, and what it reads is related to the places before and
after it. -/
def Steps (r : Reader ρ Forest) (Q : Place → Forest → Place → Prop) : Prop :=
  ∀ p m, R.Has p → R.IsTrue m → R.LeadsTo (Q p) (r R.gaps p m)

variable {R}

namespace Steps

variable {r s : Reader ρ Forest} {Q S T : Place → Forest → Place → Prop}

theorem mono (h : R.Steps r Q) (himp : ∀ p f p', R.Has p → Q p f p' → S p f p') : R.Steps r S := by
  intro p m hp hm
  have hrun := h p m hp hm
  revert hrun
  cases r R.gaps p m with
  | done f p' m' => exact fun ⟨hp', hm', hf⟩ => ⟨hp', hm', himp p f p' hp hf⟩
  | miss m' => exact id

theorem and (hq : R.Steps r Q) (hs : R.Steps r S) : R.Steps r fun p f p' => Q p f p' ∧ S p f p' := by
  intro p m hp hm
  have hfirst := hq p m hp hm
  have hsecond := hs p m hp hm
  revert hfirst hsecond
  cases r R.gaps p m with
  | done f p' m' => exact fun ⟨hp', hm', hf⟩ ⟨_, _, hf'⟩ => ⟨hp', hm', hf, hf'⟩
  | miss m' => exact fun hm' _ => hm'

theorem pure {f : Forest} (h : ∀ p, Q p f p) : R.Steps (Pure.pure f) Q :=
  fun p _ hp hm => ⟨hp, hm, h p⟩

theorem fail : R.Steps Reader.fail Q := fun _ _ _ hm => hm

theorem bind {k : Forest → Reader ρ Forest} {T : Forest → Place → Forest → Place → Prop}
    (hr : R.Steps r Q) (hk : ∀ f, R.Steps (k f) (T f))
    (h : ∀ p f p' g p'', R.Has p → R.Has p' → Q p f p' → T f p' g p'' → S p g p'') :
    R.Steps (r >>= k) S := by
  intro p m hp hm
  have hrun := hr p m hp hm
  rw [Reader.run_bind]
  revert hrun
  cases r R.gaps p m with
  | miss m' => exact id
  | done f p' m' =>
    rintro ⟨hp', hm', hf⟩
    have hnext := hk f p' m' hp' hm'
    dsimp only
    revert hnext
    cases k f R.gaps p' m' with
    | miss m'' => exact id
    | done g p'' m'' => exact fun ⟨hp'', hm'', hg⟩ => ⟨hp'', hm'', h p f p' g p'' hp hp' hf hg⟩

theorem map {g : Forest → Forest} (hr : R.Steps r Q) (h : ∀ p f p', Q p f p' → S p (g f) p') :
    R.Steps (g <$> r) S := by
  refine bind (T := fun f p h p' => h = g f ∧ p' = p) hr (fun f => pure fun p => ⟨rfl, rfl⟩) ?_
  rintro p f p' _ p'' - - hf ⟨rfl, rfl⟩
  exact h p f p'' hf

theorem append (hr : R.Steps r Q) (hs : R.Steps s T)
    (h : ∀ p f p' g p'', R.Has p → R.Has p' → Q p f p' → T p' g p'' → S p (f ++ g) p'') :
    R.Steps (r ++ s) S := by
  refine bind (T := fun f p fg p' => ∃ g, fg = f ++ g ∧ T p g p') hr
    (fun f => map hs fun p g p' hg => ⟨g, rfl, hg⟩) ?_
  rintro p f p' _ p'' hp hp' hf ⟨g, rfl, hg⟩
  exact h p f p' g p'' hp hp' hf hg

theorem orElse {s : Unit → Reader ρ Forest} (hr : R.Steps r Q) (hs : R.Steps (s ()) Q) :
    R.Steps (HOrElse.hOrElse r s) Q := by
  intro p m hp hm
  have hrun := hr p m hp hm
  rw [Reader.run_orElse]
  revert hrun
  cases r R.gaps p m with
  | done f p' m' => exact id
  | miss m' => exact fun hm' => hs p m' hp hm'

theorem ahead (hr : R.Steps r Q) (h : ∀ p, S p [] p) : R.Steps (Reader.ahead r) S := by
  intro p m hp hm
  have hrun := hr p m hp hm
  rw [Reader.ahead]
  revert hrun
  cases r R.gaps p m with
  | done f p' m' => exact fun ⟨_, hm', _⟩ => ⟨hp, hm', h p⟩
  | miss m' => exact id

theorem absent (hr : R.Steps r Q) (h : ∀ p, S p [] p) : R.Steps (Reader.absent r) S := by
  intro p m hp hm
  have hrun := hr p m hp hm
  rw [Reader.absent]
  revert hrun
  cases r R.gaps p m with
  | done f p' m' => exact fun ⟨_, hm', _⟩ => hm'
  | miss m' => exact fun hm' => ⟨hp, hm', h p⟩

theorem repeatOver (hr : R.Steps r Q) (hnil : ∀ p, S p [] p)
    (h : ∀ p f p' g p'', R.Has p → Q p f p' → S p' g p'' → S p (f ++ g) p'') (bound : List Char) :
    R.Steps (Reader.repeatOver r bound) S := by
  -- the bound gets shorter with every turn, whatever the reader takes
  induction bound with
  | nil => exact pure hnil
  | cons c bound ih =>
    intro p m hp hm
    have hrun := hr p m hp hm
    rw [Reader.repeatOver]
    dsimp only
    revert hrun
    cases r R.gaps p m with
    | miss m' => exact fun hm' => ⟨hp, hm', hnil p⟩
    | done f p' m' =>
      rintro ⟨hp', hm', hf⟩
      dsimp only
      split
      · have hone := h p f p' [] p' hp hf (hnil p')
        rw [List.append_nil] at hone
        exact ⟨hp', hm', hone⟩
      · have hrest : R.Steps ((f ++ ·) <$> Reader.repeatOver r bound)
            fun q fg p'' => q = p' → S p fg p'' :=
          map ih fun q g p'' hg hq => h p f q g p'' hp (hq ▸ hf) hg
        have hturn := hrest p' m' hp' hm'
        revert hturn
        cases ((f ++ ·) <$> Reader.repeatOver r bound) R.gaps p' m' with
        | miss m'' => exact id
        | done fg p'' m'' => exact fun ⟨hp'', hm'', hfg⟩ => ⟨hp'', hm'', hfg rfl⟩

theorem many (hr : R.Steps r Q) (hnil : ∀ p, S p [] p)
    (h : ∀ p f p' g p'', R.Has p → Q p f p' → S p' g p'' → S p (f ++ g) p'') :
    R.Steps (Reader.many r) S :=
  fun p m => repeatOver hr hnil h p.raw p m

section

variable {step : Forest → Reader ρ Forest} {T : Forest → Place → Forest → Place → Prop}
  (hstep : ∀ f, R.Steps (step f) (T f)) (hrefl : ∀ f p, T f p f p)
  (htrans : ∀ f p g p' h p'', T f p g p' → T g p' h p'' → T f p h p'')
include hstep hrefl htrans

theorem extendOver (bound : List Char) (f : Forest) :
    R.Steps (Reader.extendOver step bound f) (T f) := by
  induction bound generalizing f with
  | nil => exact pure (hrefl f)
  | cons c bound ih =>
    intro p m hp hm
    have hrun := hstep f p m hp hm
    rw [Reader.extendOver]
    dsimp only
    revert hrun
    cases step f R.gaps p m with
    | miss m' => exact fun hm' => ⟨hp, hm', hrefl f p⟩
    | done g p' m' =>
      rintro ⟨hp', hm', hg⟩
      have hrest := ih g p' m' hp' hm'
      dsimp only
      revert hrest
      cases Reader.extendOver step bound g R.gaps p' m' with
      | miss m'' => exact id
      | done h p'' m'' => exact fun ⟨hp'', hm'', hh⟩ => ⟨hp'', hm'', htrans f p g p' h p'' hg hh⟩

theorem extend (hr : R.Steps r Q) (h : ∀ p f p' g p'', Q p f p' → T f p' g p'' → S p g p'') :
    R.Steps (Reader.extend r step) S :=
  bind hr (fun f p m => extendOver hstep hrefl htrans p.raw f p m)
    fun p f p' g p'' _ _ hf hg => h p f p' g p'' hf hg

end

theorem stays [hstays : Reader.Stays r] (h : R.Steps r Q) :
    R.Steps r fun p f p' => f = [] ∧ p' = p := by
  intro p m hp hm
  have hrun := h p m hp hm
  have hhere := hstays.here R.gaps p m
  revert hrun hhere
  cases r R.gaps p m with
  | done f p' m' => exact fun ⟨hp', hm', _⟩ hf => ⟨hp', hm', hf⟩
  | miss m' => exact fun hm' _ => hm'

/-! ### Tokens -/

theorem tokenOf (shape : Shape) (kind : Kind)
    (h : ∀ p lexeme rest, R.Has p → p.rest = lexeme ++ rest →
      shape.split? (lexeme ++ rest) = some (lexeme, rest) →
      R.Has (.of R.gaps rest (p.pos + lexeme.length)) ∧
        Q p (p.gap ++ [.leaf kind lexeme]) (.of R.gaps rest (p.pos + lexeme.length))) :
    R.Steps (Reader.tokenOf shape kind) Q := by
  intro p m hp hm
  rw [Reader.tokenOf]
  cases hsplit : shape.split? p.rest with
  | none => exact hm
  | some cut =>
    have happend : cut.1 ++ cut.2 = p.rest := Shape.append_of_split? hsplit
    obtain ⟨hnext, hq⟩ := h p cut.1 cut.2 hp happend.symm (by rw [happend]; exact hsplit)
    exact ⟨hnext, hm, hq⟩

theorem rawTokenOf (shape : Shape) (kind : Kind)
    (h : ∀ p lexeme rest, R.Has p → p.raw = lexeme ++ rest →
      R.Has (.of R.gaps rest (p.start + lexeme.length)) ∧
        Q p [.leaf kind lexeme] (.of R.gaps rest (p.start + lexeme.length))) :
    R.Steps (Reader.rawTokenOf shape kind) Q := by
  intro p m hp hm
  rw [Reader.rawTokenOf]
  cases hsplit : shape.split? p.raw with
  | none => exact hm
  | some cut =>
    obtain ⟨hnext, hq⟩ := h p cut.1 cut.2 hp (Shape.append_of_split? hsplit).symm
    exact ⟨hnext, hm, hq⟩

theorem finish (h : ∀ p, R.Has p → p.rest = [] →
    R.Has (.of R.gaps [] p.pos) ∧ Q p p.gap (.of R.gaps [] p.pos)) : R.Steps Reader.finish Q := by
  intro p m hp hm
  rw [Reader.finish]
  split
  · obtain ⟨hnext, hq⟩ := h p hp (List.isEmpty_iff.1 ‹_›)
    exact ⟨hnext, hm, hq⟩
  · exact hm

theorem remembered {rule : ρ} (hr : R.Steps r Q)
    (hnote : ∀ p f p', R.Has p → R.Has p' → Q p f p' → R.Recalls p.start rule f p')
    (hrecall : ∀ p f p', R.Has p → R.Recalls p.start rule f p' → R.Has p' ∧ Q p f p') :
    R.Steps (Reader.remembered rule r) Q := by
  intro p m hp hm
  have hrun := hr p m hp hm
  rw [Reader.remembered]
  split
  -- what was read here before is not read again: it is as good as what is remembered
  · rename_i f p' hlookup
    obtain ⟨hp', hf⟩ := hrecall p f p' hp (hm p.start rule f p' hlookup)
    exact ⟨hp', hm, hf⟩
  · exact hm
  · revert hrun
    cases r R.gaps p m with
    | done f p' m' =>
      rintro ⟨hp', hm', hf⟩
      refine ⟨hp', isTrue_note hm' rule p.start ?_, hf⟩
      rintro f' p'' ⟨⟩
      exact hnote p f p' hp hp' hf
    | miss m' => exact fun hm' => isTrue_note hm' rule p.start nofun

/-! ### Whole texts -/

/-- What a reader reads of a whole text is as it reads it from its first place on. -/
theorem of_whole (hr : R.Steps r Q) {cs : List Char} (hstart : R.Has (.of R.gaps cs 0)) {t : Tree}
    (h : Reader.whole R.gaps r cs = .ok t) : ∃ f p, t = .node .item f ∧ Q (.of R.gaps cs 0) f p := by
  have hrun := hr (.of R.gaps cs 0) ⟨0, .replicate (cs.length + 1) []⟩ hstart (isTrue_blank 0 _)
  unfold Reader.whole at h
  split at h
  · cases h
  split at h
  · rename_i f p m hdone
    rw [hdone] at hrun
    cases h
    exact ⟨f, p, rfl, hrun.2.2⟩
  · cases h

end Steps

end Realm

end Docent.Scan
