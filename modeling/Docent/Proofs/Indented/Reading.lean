import Docent.Proofs.Indented.Keyed
import Docent.Proofs.Indented.Tokens

/-!
# Readers lose no text

What a reader of tokens reads is the text of the tokens it moves past. Readers that never succeed
are there to refuse a source; all readers leave a memory behind that tells the truth. These are
properties of the combinators: a reader has them when the readers it is built from do, and instances
find that out.
-/

namespace Docent

namespace Indented

open Docent.Tree (textOfList TidyAll everywhere_append)

/-! ### What a memory tells -/

namespace Source

def before (src : Source) (pos : Nat) : List Char :=
  (src.tokens.toList.take pos).flatMap Token.source

/-- Whether the tokens of a source are as a scanner leaves them. -/
def Scanned (src : Source) : Prop := ∀ t ∈ src.tokens.toList, t.Solid

/-- A forest extends what was read before by the text of the tokens between two positions, and
keeps it tidy and of a level. -/
def Extends (src : Source) (ℓ : Level) (a : Forest) (pos : Nat) (f : Forest) (pos' : Nat) : Prop :=
  (∃ cs, textOfList f = textOfList a ++ cs ∧ src.before pos' = src.before pos ++ cs) ∧
    (TidyAll a → TidyAll f) ∧ (ℓ.Holds a → ℓ.Holds f)

variable {src : Source} {ℓ : Level}

theorem Extends.refl (a : Forest) (pos : Nat) : src.Extends ℓ a pos a pos :=
  ⟨⟨[], by rw [List.append_nil], by rw [List.append_nil]⟩, id, id⟩

theorem Extends.trans {a f g : Forest} {i j k : Nat} (h : src.Extends ℓ a i f j)
    (h' : src.Extends ℓ f j g k) : src.Extends ℓ a i g k := by
  obtain ⟨⟨cs, hf, hj⟩, htidy, hlevel⟩ := h
  obtain ⟨⟨ds, hg, hk⟩, htidy', hlevel'⟩ := h'
  exact ⟨⟨cs ++ ds, by rw [hg, hf, List.append_assoc], by rw [hk, hj, List.append_assoc]⟩,
    htidy' ∘ htidy, hlevel' ∘ hlevel⟩

theorem Extends.holds {f : Forest} {i j : Nat} (h : src.Extends ℓ [] i f j) : ℓ.Holds f :=
  h.2.2 (Tree.everywhere_nil _)

theorem Extends.append {f : Forest} {i j : Nat} (h : src.Extends ℓ [] i f j) (a : Forest) :
    src.Extends ℓ a i (a ++ f) j := by
  have hf := h.holds
  obtain ⟨⟨cs, htext, hj⟩, htidy, -⟩ := h
  refine ⟨⟨cs, ?_, hj⟩, fun ha => Tree.tidyAll_append.2 ⟨ha, htidy trivial⟩,
    fun ha => everywhere_append.2 ⟨ha, hf⟩⟩
  rw [Tree.textOfList_append, htext]
  rfl

theorem Extends.of_plain {f : Forest} {i j : Nat} (h : src.Extends .plain [] i f j) (ℓ : Level) :
    src.Extends ℓ [] i f j :=
  ⟨h.1, h.2.1, fun _ => h.holds.of_plain ℓ⟩

theorem Extends.close_of {a f : Forest} {i j : Nat} (h : src.Extends ℓ a i f j) {k : Kind}
    (hk : k.IsInner) (hclose : ℓ.Holds f → ℓ.Holds (Tree.close k f)) :
    src.Extends ℓ a i (Tree.close k f) j := by
  obtain ⟨⟨cs, hf, hj⟩, htidy, hlevel⟩ := h
  exact ⟨⟨cs, by rw [Tree.textOfList_close, hf], hj⟩, fun ha => Tree.tidyAll_close hk (htidy ha),
    hclose ∘ hlevel⟩

theorem Extends.close {a f : Forest} {i j : Nat} (h : src.Extends ℓ a i f j) (k : Kind)
    [hk : IsPlain k] : src.Extends ℓ a i (Tree.close k f) j :=
  h.close_of hk.inner fun hf => hf.close fun _ vs _ _ => Level.allows_of_quiet (hk.quiet vs) ℓ

end Source

/-- A memory is true when each result in it was read from where it is kept, and is such as its rule
gives. -/
def Memory.IsTrue (m : Memory) (src : Source) : Prop :=
  ∀ rule pos f pos', m.recall rule pos = some (some (f, pos')) →
    src.Extends rule.level [] pos f pos' ∧ rule.Gives f

/-- An outcome leaves a true memory behind, and a result is as told. -/
def Outcome.Meets {α : Type} (src : Source) (Q : α → Nat → Prop) : Outcome α → Prop
  | .done a pos m => m.IsTrue src ∧ Q a pos
  | .miss m => m.IsTrue src
  | .halt _ m => m.IsTrue src

namespace Reader

variable {α β : Type} {ℓ : Level}

/-- Over scanned tokens and with a true memory a reader leaves a true memory behind, and its result
is as told. -/
def Meets (p : Reader α) (Q : Source → Nat → α → Nat → Prop) : Prop :=
  ∀ src pos m, src.Scanned → m.IsTrue src → (p src pos m).Meets src (Q src pos)

/-! ### Combinators -/

namespace Meets

variable {p q : Reader α} {P Q : Source → Nat → α → Nat → Prop}
  {R : Source → Nat → β → Nat → Prop}

theorem mono (hp : p.Meets P) (h : ∀ src i a j, P src i a j → Q src i a j) : p.Meets Q := by
  intro src pos m hsrc hm
  have hrun := hp src pos m hsrc hm
  revert hrun
  cases p src pos m with
  | done a j m₁ =>
    rintro ⟨hm₁, ha⟩
    exact ⟨hm₁, h _ _ _ _ ha⟩
  | miss m₁ => exact id
  | halt r m₁ => exact id

theorem and (hp : p.Meets P) (hq : p.Meets Q) :
    p.Meets fun src i a j => P src i a j ∧ Q src i a j := by
  intro src pos m hsrc hm
  have hfirst := hp src pos m hsrc hm
  have hsecond := hq src pos m hsrc hm
  revert hfirst hsecond
  cases p src pos m with
  | done a j m₁ => exact fun hfirst hsecond => ⟨hfirst.1, hfirst.2, hsecond.2⟩
  | miss m₁ => exact fun hm₁ _ => hm₁
  | halt r m₁ => exact fun hm₁ _ => hm₁

theorem pure (a : α) (h : ∀ src i, Q src i a i) : Meets (Pure.pure a) Q :=
  fun _ _ _ _ hm => ⟨hm, h _ _⟩

theorem fail : Meets (fail : Reader α) Q := fun _ _ _ _ hm => hm

theorem bind {f : α → Reader β} {S : α → Source → Nat → β → Nat → Prop} (hp : p.Meets P)
    (hf : ∀ a, (f a).Meets (S a))
    (h : ∀ src i a j b k, src.Scanned → P src i a j → S a src j b k → R src i b k) :
    (p >>= f).Meets R := by
  intro src pos m hsrc hm
  have hrun := hp src pos m hsrc hm
  change Outcome.Meets src _ (match p src pos m with
    | .done a pos' m' => f a src pos' m'
    | .miss m' => .miss m'
    | .halt r m' => .halt r m')
  revert hrun
  cases p src pos m with
  | done a j m₁ =>
    rintro ⟨hm₁, ha⟩
    have hrun' := hf a src j m₁ hsrc hm₁
    dsimp only
    revert hrun'
    cases f a src j m₁ with
    | done b k m₂ =>
      rintro ⟨hm₂, hb⟩
      exact ⟨hm₂, h _ _ _ _ _ _ hsrc ha hb⟩
    | miss m₂ => exact id
    | halt r m₂ => exact id
  | miss m₁ => exact id
  | halt r m₁ => exact id

theorem orElse {q : Unit → Reader α} (hp : p.Meets Q) (hq : (q ()).Meets Q) :
    (HOrElse.hOrElse p q).Meets Q := by
  intro src pos m hsrc hm
  have hrun := hp src pos m hsrc hm
  change Outcome.Meets src _ (match p src pos m with
    | .done a pos' m' => .done a pos' m'
    | .miss m' => q () src pos m'
    | .halt r m' => .halt r m')
  revert hrun
  cases p src pos m with
  | done a j m₁ => exact id
  | miss m₁ => exact hq src pos m₁ hsrc
  | halt r m₁ => exact id

theorem commit {f : α → Reader β} {q : Reader β} {S : α → Source → Nat → β → Nat → Prop}
    (hp : p.Meets P) (hf : ∀ a, (f a).Meets (S a)) (hq : q.Meets R)
    (h : ∀ src i a j b k, src.Scanned → P src i a j → S a src j b k → R src i b k) :
    (Reader.commit p f q).Meets R := by
  intro src pos m hsrc hm
  have hbind := bind hp hf h src pos m hsrc hm
  have hrun := hp src pos m hsrc hm
  change Outcome.Meets src _ (match p src pos m with
    | .done a pos' m' => f a src pos' m'
    | .miss m' => .miss m'
    | .halt r m' => .halt r m') at hbind
  change Outcome.Meets src _ (match p src pos m with
    | .done a pos' m' => f a src pos' m'
    | .miss m' => q src pos m'
    | .halt r m' => .halt r m')
  revert hrun hbind
  cases p src pos m with
  | done a j m₁ => exact fun _ hbind => hbind
  | miss m₁ => exact fun hm₁ _ => hq src pos m₁ hsrc hm₁
  | halt r m₁ => exact fun _ hbind => hbind

theorem ahead (hp : p.Meets P) : (Reader.ahead p).Meets fun src i f j => src.Extends ℓ [] i f j := by
  intro src pos m hsrc hm
  have hrun := hp src pos m hsrc hm
  change Outcome.Meets src _ (match p src pos m with
    | .done _ _ m' => .done [] pos m'
    | .miss m' => .miss m'
    | .halt r m' => .halt r m')
  revert hrun
  cases p src pos m with
  | done a j m₁ => exact fun hdone => ⟨hdone.1, .refl _ _⟩
  | miss m₁ => exact id
  | halt r m₁ => exact id

theorem absent (hp : p.Meets P) :
    (Reader.absent p).Meets fun src i f j => src.Extends ℓ [] i f j := by
  intro src pos m hsrc hm
  have hrun := hp src pos m hsrc hm
  change Outcome.Meets src _ (match p src pos m with
    | .done _ _ m' => .miss m'
    | .miss m' => .done [] pos m'
    | .halt r m' => .halt r m')
  revert hrun
  cases p src pos m with
  | done a j m₁ => exact fun hdone => hdone.1
  | miss m₁ => exact fun hm₁ => ⟨hm₁, .refl _ _⟩
  | halt r m₁ => exact id

theorem explaining (hp : p.Meets Q) : (Reader.explaining p).Meets Q := by
  intro src pos m hsrc hm
  change Outcome.Meets src _ (if m.explain then p src pos m else .miss m)
  split
  · exact hp src pos m hsrc hm
  · exact hm

theorem plainly (hp : p.Meets Q) : (Reader.plainly p).Meets Q := by
  intro src pos m hsrc hm
  -- the switch for explanations has no part in what a memory tells
  have hrun := hp src pos { m with explain := false } hsrc hm
  change Outcome.Meets src _ (match p src pos { m with explain := false } with
    | .done a pos' m' => .done a pos' { m' with explain := m.explain }
    | .miss m' => .miss { m' with explain := m.explain }
    | .halt r m' => .halt r { m' with explain := m.explain })
  revert hrun
  cases p src pos { m with explain := false } with
  | done a j m₁ => exact id
  | miss m₁ => exact id
  | halt r m₁ => exact id

theorem refuse (fault : Fault) (line : Nat) : (Reader.refuse fault line : Reader α).Meets Q :=
  fun _ _ _ _ hm => hm

theorem refuseHere (fault : Fault) : (Reader.refuseHere fault : Reader α).Meets Q :=
  fun _ _ _ _ hm => hm

theorem peek : Reader.peek.Meets fun src i t j => src.tokens[i]? = some t ∧ j = i := by
  intro src pos m hsrc hm
  rw [Reader.peek]
  dsimp only
  split
  · exact hm
  · rename_i t ht
    split
    · exact hm
    · exact ⟨hm, ht, rfl⟩

theorem advance : Reader.advance.Meets fun _ i _ j => j = i + 1 :=
  fun _ _ _ _ hm => ⟨hm, rfl⟩

theorem depth : Reader.depth.Meets fun _ _ _ _ => True :=
  fun _ _ _ _ hm => ⟨hm, trivial⟩

theorem map {g : α → β} (hp : p.Meets P) (h : ∀ src i a j, P src i a j → R src i (g a) j) :
    (g <$> p).Meets R :=
  bind (S := fun a _ i b j => b = g a ∧ j = i) hp (fun _ => pure _ fun _ _ => ⟨rfl, rfl⟩)
    fun _ _ _ _ _ _ _ ha ⟨hb, hk⟩ => hb ▸ hk ▸ h _ _ _ _ ha

theorem append {p q : Reader Forest} {P Q R : Source → Nat → Forest → Nat → Prop}
    (hp : p.Meets P) (hq : q.Meets Q)
    (h : ∀ src i f j g k, P src i f j → Q src j g k → R src i (f ++ g) k) : (p ++ q).Meets R :=
  bind (S := fun f src i g j => ∀ l, P src l f i → R src l g j) hp
    (fun f => map hq fun src i g j hg l hf => h src l f i g j hf hg)
    fun _ _ _ _ _ _ _ hf hg => hg _ hf

/-- What holds of no results, and of one more result when it holds of the rest, holds of a
repetition. -/
theorem repeatFor_of_cons {p : Reader Forest} {P : Source → Nat → Forest → Nat → Prop}
    {R : Source → Nat → List Forest → Nat → Prop} (hp : p.Meets P) (hnil : ∀ src i, R src i [] i)
    (hcons : ∀ src i f j fs k, P src i f j → R src j fs k → R src i (f :: fs) k) (fuel : Nat) :
    (Reader.repeatFor fuel p).Meets R := by
  induction fuel with
  | zero => exact pure _ fun src i => hnil src i
  | succ fuel ih =>
    intro src pos m hsrc hm
    have hrun := hp src pos m hsrc hm
    rw [Reader.repeatFor]
    dsimp only
    revert hrun
    cases p src pos m with
    | done a j m₁ =>
      rintro ⟨hm₁, ha⟩
      dsimp only
      split
      · exact ⟨hm₁, hcons _ _ _ _ _ _ ha (hnil _ _)⟩
      · -- the rest begins where the first result ends
        have hmore := map (g := (a :: ·)) (R := fun src i fs k => ∀ l, P src l a i → R src l fs k) ih
          fun _ _ _ _ hfs _ hl => hcons _ _ _ _ _ _ hl hfs
        have hrest := hmore src j m₁ hsrc hm₁
        revert hrest
        cases ((a :: ·) <$> Reader.repeatFor fuel p) src j m₁ with
        | done fs k m₂ => exact fun hdone => ⟨hdone.1, hdone.2 _ ha⟩
        | miss m₂ => exact id
        | halt r m₂ => exact id
    | miss m₁ => exact fun hm₁ => ⟨hm₁, hnil _ _⟩
    | halt r m₁ => exact id

theorem many {p : Reader Forest} (hp : p.Meets fun src i f j => src.Extends ℓ [] i f j) :
    (Reader.many p).Meets fun src i f j => src.Extends ℓ [] i f j :=
  map (P := fun src i fs j => src.Extends ℓ [] i fs.flatten j)
    (fun src pos m => repeatFor_of_cons (R := fun src i fs j => src.Extends ℓ [] i fs.flatten j) hp
      (fun _ _ => .refl _ _) (fun _ _ f _ _ _ hf hfs => hf.trans (hfs.append f))
      (src.tokens.size - pos + 1) src pos m)
    fun _ _ _ _ h => h

theorem manyList_each {p : Reader Forest} {P : Forest → Prop} (hp : p.Meets fun _ _ f _ => P f) :
    (Reader.manyList p).Meets fun _ _ fs _ => ∀ f ∈ fs, P f :=
  fun src pos m => repeatFor_of_cons (R := fun _ _ fs _ => ∀ f ∈ fs, P f) hp (fun _ _ => nofun)
    (fun _ _ _ _ _ _ hf hfs => List.forall_mem_cons.2 ⟨hf, hfs⟩) (src.tokens.size - pos + 1) src pos m

/-- What every step gives holds from the first text to the last when it can be put together. -/
theorem extendFor_of_trans {step : Forest → Reader Forest}
    {P : Forest → Source → Nat → Forest → Nat → Prop} (hrefl : ∀ a src i, P a src i a i)
    (htrans : ∀ a src i b j f k, P a src i b j → P b src j f k → P a src i f k)
    (hstep : ∀ a, (step a).Meets (P a)) (fuel : Nat) (a : Forest) :
    (Reader.extendFor fuel a step).Meets (P a) := by
  induction fuel generalizing a with
  | zero => exact pure _ fun src i => hrefl a src i
  | succ fuel ih =>
    intro src pos m hsrc hm
    have hrun := hstep a src pos m hsrc hm
    rw [Reader.extendFor]
    dsimp only
    revert hrun
    cases step a src pos m with
    | done a' j m₁ =>
      rintro ⟨hm₁, ha⟩
      have hrest := ih a' src j m₁ hsrc hm₁
      dsimp only
      revert hrest
      cases Reader.extendFor fuel a' step src j m₁ with
      | done f k m₂ => exact fun hdone => ⟨hdone.1, htrans _ _ _ _ _ _ _ ha hdone.2⟩
      | miss m₂ => exact id
      | halt r m₂ => exact id
    | miss m₁ => exact fun hm₁ => ⟨hm₁, hrefl _ _ _⟩
    | halt r m₁ => exact id

theorem extendFor {step : Forest → Reader Forest}
    (hstep : ∀ a, (step a).Meets fun src i f j => src.Extends ℓ a i f j) (fuel : Nat) (a : Forest) :
    (Reader.extendFor fuel a step).Meets fun src i f j => src.Extends ℓ a i f j :=
  extendFor_of_trans (P := fun a src i f j => src.Extends ℓ a i f j) (fun _ _ _ => .refl _ _)
    (fun _ _ _ _ _ _ _ ha hf => ha.trans hf) hstep fuel a

theorem extendFor_gives {step : Forest → Reader Forest} {P : Forest → Prop}
    (hstep : ∀ a, (step a).Meets fun _ _ f _ => P f) (fuel : Nat) (a : Forest) :
    (Reader.extendFor fuel a step).Meets fun _ _ f _ => P a → P f :=
  extendFor_of_trans (P := fun a _ _ f _ => P a → P f) (fun _ _ _ => id)
    (fun _ _ _ _ _ _ _ ha hf h => hf (ha h)) (fun a => (hstep a).mono fun _ _ _ _ h _ => h) fuel a

end Meets

/-! ### Single tokens -/

theorem textOfList_leaves (kind : Kind) (t : Token) : textOfList (leaves kind t) = t.source := by
  rw [leaves, Tree.textOfList_append, Token.source]
  congr 1
  · split
    · rename_i h
      rw [List.isEmpty_iff.1 h]
      rfl
    · exact List.append_nil _
  · split
    · rename_i h
      rw [List.isEmpty_iff.1 h]
      rfl
    · exact List.append_nil _

theorem tidyAll_leaves {kind : Kind} {t : Token} (h : kind = .blank ∨ t.isSolid = true)
    (ht : t.Solid) : TidyAll (leaves kind t) := by
  rw [leaves, Tree.tidyAll_append]
  refine ⟨?_, ?_⟩
  · split
    · trivial
    · rename_i hlead
      exact ⟨⟨fun hnil => hlead (List.isEmpty_iff.2 hnil), absurd rfl⟩, trivial⟩
  · split
    · trivial
    · rename_i htext
      refine ⟨⟨fun hnil => htext (List.isEmpty_iff.2 hnil), fun hkind => ?_⟩, trivial⟩
      exact (ht (h.resolve_left hkind)).2.1

theorem holds_leaves {kind : Kind} {t : Token} (h : ℓ.Allows (.leaf kind t.text)) :
    ℓ.Holds (leaves kind t) := by
  have hleaf {k : Kind} {cs : List Char} (h : ℓ.Allows (.leaf k cs)) :
      ℓ.Holds (if cs.isEmpty then [] else [.leaf k cs]) := by
    split
    · exact Tree.everywhere_nil _
    · exact Tree.everywhere_leaf.2 h
  have hlead : ℓ.Allows (.leaf .blank t.lead) := ℓ.allows_leaf .blank nofun t.lead
  exact everywhere_append.2 ⟨hleaf hlead, hleaf h⟩

/-- What was read is a token of a class, as leaves of a kind. -/
def IsToken (p : Token → Prop) (kind : Kind) (src : Source) (i : Nat) (f : Forest) (j : Nat) : Prop :=
  ∃ t, src.tokens[i]? = some t ∧ t.Solid ∧ p t ∧ f = leaves kind t ∧ j = i + 1

namespace IsToken

variable {p : Token → Prop} {kind : Kind} {src : Source} {i j : Nat} {f : Forest}

theorem extension (h : IsToken p kind src i f j) (hp : ∀ t, p t → kind = .blank ∨ t.isSolid = true)
    (hallows : ∀ t : Token, t.Solid → p t → ℓ.Allows (.leaf kind t.text)) :
    src.Extends ℓ [] i f j := by
  obtain ⟨t, ht, hsolid, hpt, rfl, rfl⟩ := h
  rw [← Array.getElem?_toList] at ht
  refine ⟨⟨t.source, textOfList_leaves kind t, ?_⟩, fun _ => tidyAll_leaves (hp t hpt) hsolid,
    fun _ => holds_leaves (hallows t hsolid hpt)⟩
  rw [Source.before, List.take_add_one, ht, List.flatMap_append]
  simp [Source.before]

theorem eq_concat (h : IsToken p kind src i f j) (hp : ∀ t, p t → t.isSolid = true) :
    ∃ us t, f = us ++ [.leaf kind t.text] ∧ (∀ u ∈ us, isGap u = true) ∧ p t ∧ t.text ≠ [] ∧
      t.symbol = String.ofList t.text := by
  obtain ⟨t, -, hsolid, hpt, rfl, -⟩ := h
  obtain ⟨htext, -, hsymbol, -⟩ := hsolid (hp t hpt)
  refine ⟨if t.lead.isEmpty then [] else [.leaf .blank t.lead], t, ?_, ?_, hpt, htext, hsymbol⟩
  · rw [leaves, if_neg (mt List.isEmpty_iff.1 htext)]
  · intro u hu
    split at hu
    · cases hu
    · obtain rfl := List.mem_singleton.1 hu
      rfl

theorem solid_leaf {cs : List Char} (hkind : kind.isOutside = false) (hcs : cs ≠ []) :
    ∃ ds, (Tree.leaf kind cs).solidText? = some ds := by
  refine ⟨cs, if_neg ?_⟩
  rintro (rfl | rfl)
  · cases hkind
  · exact hcs rfl

theorem filled (h : IsToken p kind src i f j) (hp : ∀ t, p t → t.isSolid = true)
    (hkind : kind.isOutside = false) : Tree.Filled f := by
  obtain ⟨us, t, rfl, -, -, htext, -⟩ := h.eq_concat hp
  exact ⟨us, _, [], rfl, fun _ _ => trivial, hkind, solid_leaf hkind htext⟩

theorem hasForm {k : Form} (h : IsToken p (.form k) src i f j) (hp : ∀ t, p t → t.isSolid = true) :
    HasForm f := by
  obtain ⟨us, t, rfl, -, -, htext, -⟩ := h.eq_concat hp
  exact ⟨us, _, [], rfl, fun _ _ => trivial, rfl, solid_leaf rfl htext⟩

end IsToken

namespace Meets

theorem take (t : Token) (kind : Kind) :
    (do Reader.advance; return leaves kind t : Reader Forest).Meets
      fun _ i f j => f = leaves kind t ∧ j = i + 1 :=
  bind (S := fun _ _ i f j => f = leaves kind t ∧ j = i) advance
    (fun _ => pure _ fun _ _ => ⟨rfl, rfl⟩) fun _ _ _ _ _ _ _ hj ⟨hf, hk⟩ => ⟨hf, hk.trans hj⟩

theorem takeWhen {kind : Kind} {f : Token → Reader Forest} {p : Token → Prop}
    (hf : ∀ t, (f t).Meets fun _ i g j => p t ∧ g = leaves kind t ∧ j = i + 1) :
    (Reader.peek >>= f).Meets (IsToken p kind) := by
  refine bind peek hf ?_
  rintro src i t j g k hsrc ⟨ht, rfl⟩ ⟨hpt, hg, hk⟩
  rw [← Array.getElem?_toList] at ht
  exact ⟨t, Array.getElem?_toList ▸ ht, hsrc t (List.mem_of_getElem? ht), hpt, hg, hk⟩

theorem tokenOf (p : Token → Bool) (kind : Kind) :
    (Reader.tokenOf p kind).Meets (IsToken (p · = true) kind) := by
  refine takeWhen fun t => ?_
  split
  · rename_i hpt
    exact (take t kind).mono fun _ _ _ _ h => ⟨hpt, h⟩
  · exact fail

end Meets

end Reader

end Indented

end Docent
