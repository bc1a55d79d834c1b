import Docent.Proofs.Parts
import Docent.Proofs.Scan.Realm

/-!
# What readers of characters read

A law says of a grammar what its gaps are like and what its rules give. What is said of the forests
that a reader reads is put together from what is said of the readers it is built from. Main statement:
readers that cover what they read lose nothing of a whole text.
-/

namespace Docent.Scan

/-- How a grammar separates tokens, by leaves that stay outside of constructs and hold the text of the
gap, and what holds of the forests that its rules give. -/
structure Law (ρ : Type) where
  gaps : Gaps
  Result : ρ → Forest → Prop
  loose : ∀ cs, ∀ t ∈ (gaps cs).1, t.isLoose = true
  text : ∀ cs, Tree.textOfList (gaps cs).1 ++ (gaps cs).2 = cs

namespace Law

variable {ρ : Type} (L : Law ρ)

/-! ### Properties of what is read -/

/-- A place where the gap is cut off as the grammar has it. -/
def IsCut (p : Place) : Prop := L.gaps p.raw = (p.gap, p.rest)

theorem isCut_of (raw : List Char) (start : Nat) : L.IsCut (.of L.gaps raw start) := rfl

/-- The places of any text; what is remembered of a rule is what it gives. -/
def realm : Realm ρ := ⟨L.gaps, L.IsCut, fun _ rule f p => L.IsCut p ∧ L.Result rule f⟩

variable [DecidableEq ρ]

abbrev Steps (r : Reader ρ Forest) (Q : Place → Forest → Place → Prop) : Prop := L.realm.Steps r Q

/-- A reader leaves behind what holds, and what it reads has a property. -/
def Reads (r : Reader ρ Forest) (Q : Forest → Prop) : Prop := L.Steps r fun _ f _ => Q f

variable {L}

theorem steps_tokenOf (shape : Shape) [Shape.Bounded shape] (kind : Kind) :
    L.Steps (Reader.tokenOf shape kind) fun p f p' => ∃ cs, f = p.gap ++ [.leaf kind cs] ∧
      p.rest = cs ++ p'.raw ∧ shape (cs ++ p'.raw) = some cs.length := by
  refine .tokenOf shape kind fun p lexeme rest _ hrest hsplit => ⟨L.isCut_of _ _, lexeme, rfl, hrest, ?_⟩
  exact Shape.eq_length_of_split? hsplit

namespace Reads

variable {r s : Reader ρ Forest} {Q R S : Forest → Prop}

theorem of_steps {T : Place → Forest → Place → Prop} (h : L.Steps r T)
    (himp : ∀ p f p', L.IsCut p → T p f p' → Q f) : L.Reads r Q :=
  Realm.Steps.mono h himp

theorem mono (h : L.Reads r Q) (himp : ∀ f, Q f → R f) : L.Reads r R :=
  Realm.Steps.mono h fun _ f _ _ => himp f

theorem and (hq : L.Reads r Q) (hr : L.Reads r R) : L.Reads r fun f => Q f ∧ R f :=
  Realm.Steps.and hq hr

theorem pure {f : Forest} (h : Q f) : L.Reads (Pure.pure f) Q := Realm.Steps.pure fun _ => h

theorem fail : L.Reads Reader.fail Q := Realm.Steps.fail

theorem map {g : Forest → Forest} (hr : L.Reads r Q) (hg : ∀ f, Q f → R (g f)) :
    L.Reads (g <$> r) R :=
  Realm.Steps.map hr fun _ f _ => hg f

theorem append (hr : L.Reads r Q) (hs : L.Reads s R) (h : ∀ f g, Q f → R g → S (f ++ g)) :
    L.Reads (r ++ s) S :=
  Realm.Steps.append hr hs fun _ f _ g _ _ _ => h f g

theorem orElse {s : Unit → Reader ρ Forest} (hr : L.Reads r Q) (hs : L.Reads (s ()) Q) :
    L.Reads (HOrElse.hOrElse r s) Q :=
  Realm.Steps.orElse hr hs

theorem ahead (hr : L.Reads r Q) (h : R []) : L.Reads (Reader.ahead r) R :=
  Realm.Steps.ahead hr fun _ => h

theorem absent (hr : L.Reads r Q) (h : R []) : L.Reads (Reader.absent r) R :=
  Realm.Steps.absent hr fun _ => h

theorem many (hr : L.Reads r Q) (hnil : Q []) (happend : ∀ f g, Q f → Q g → Q (f ++ g)) :
    L.Reads (Reader.many r) Q :=
  Realm.Steps.many hr (fun _ => hnil) fun _ f _ g _ _ => happend f g

theorem tokenOf (shape : Shape) (kind : Kind)
    (h : ∀ raw f lexeme rest, L.gaps raw = (f, lexeme ++ rest) →
      shape.split? (lexeme ++ rest) = some (lexeme, rest) → Q (f ++ [.leaf kind lexeme])) :
    L.Reads (Reader.tokenOf shape kind) Q := by
  refine Realm.Steps.tokenOf shape kind fun p lexeme rest hp hrest hsplit => ⟨L.isCut_of _ _, ?_⟩
  exact h p.raw p.gap lexeme rest (hrest ▸ hp) hsplit

theorem rawTokenOf (shape : Shape) (kind : Kind) (h : ∀ lexeme, Q [.leaf kind lexeme]) :
    L.Reads (Reader.rawTokenOf shape kind) Q :=
  Realm.Steps.rawTokenOf shape kind fun _ lexeme _ _ _ => ⟨L.isCut_of _ _, h lexeme⟩

theorem finish (h : ∀ raw f rest, L.gaps raw = (f, rest) → Q f) : L.Reads Reader.finish Q :=
  Realm.Steps.finish fun p hp _ => ⟨L.isCut_of _ _, h p.raw p.gap p.rest hp⟩

theorem remembered {rule : ρ} (hr : L.Reads r (L.Result rule)) :
    L.Reads (Reader.remembered rule r) (L.Result rule) :=
  Realm.Steps.remembered hr (fun _ _ _ _ hp' hf => ⟨hp', hf⟩) fun _ _ _ _ h => h

end Reads

/-! ### The text of what is read -/

variable (L)

/-- A place in a text: what is left there is what the text has after so many characters. -/
def IsIn (cs : List Char) (p : Place) : Prop := p = .of L.gaps (cs.drop p.start) p.start

/-- The places of one text; what is remembered of a rule has the text that the rule passed over. -/
def realmOf (cs : List Char) : Realm ρ :=
  ⟨L.gaps, L.IsIn cs, fun pos _ f p => L.IsIn cs p ∧ Tree.textOfList f ++ p.raw = cs.drop pos⟩

/-- A reader that puts behind a forest what has the text that it passes over, whatever the text it
reads. -/
def Covers (a : Forest) (r : Reader ρ Forest) : Prop :=
  ∀ cs, (L.realmOf cs).Steps r fun p f p' =>
    Tree.textOfList f ++ p'.raw = Tree.textOfList a ++ p.raw

variable {L}

section

variable {cs : List Char} {p : Place}

omit [DecidableEq ρ] in
theorem isIn_of {n : Nat} {x rest : List Char} (h : cs.drop n = x ++ rest) :
    L.IsIn cs (.of L.gaps rest (n + x.length)) := by
  have hrest : cs.drop (n + x.length) = rest := by rw [← List.drop_drop, h, List.drop_left]
  show Place.of L.gaps rest (n + x.length) = .of L.gaps (cs.drop (n + x.length)) (n + x.length)
  rw [hrest]

namespace IsIn

variable (h : L.IsIn cs p)
include h

omit [DecidableEq ρ]

theorem raw : p.raw = cs.drop p.start := congrArg Place.raw h

theorem pos : p.pos = p.start + (Tree.textOfList p.gap).length := by
  rw [h]
  rfl

theorem text : Tree.textOfList p.gap ++ p.rest = p.raw := by
  rw [h]
  exact L.text (cs.drop p.start)

/-- A place further on, after the gap and a part of what follows it. -/
theorem after {x rest : List Char} (hx : p.rest = x ++ rest) :
    L.IsIn cs (.of L.gaps rest (p.pos + x.length)) ∧
      Tree.textOfList p.gap ++ x ++ rest = p.raw := by
  have hraw : Tree.textOfList p.gap ++ x ++ rest = p.raw := by
    rw [List.append_assoc, ← hx, h.text]
  refine ⟨?_, hraw⟩
  rw [h.pos, Nat.add_assoc, ← List.length_append]
  exact isIn_of (h.raw ▸ hraw.symm)

end IsIn

end

namespace Covers

variable {r s : Reader ρ Forest} {a : Forest}

theorem pure (a : Forest) : L.Covers a (Pure.pure a) := fun _ => .pure fun _ => rfl

theorem fail : L.Covers a Reader.fail := fun _ => .fail

theorem bind {k : Forest → Reader ρ Forest} (hr : L.Covers a r) (hk : ∀ f, L.Covers f (k f)) :
    L.Covers a (r >>= k) :=
  fun cs => .bind (hr cs) (fun f => hk f cs) fun _ _ _ _ _ _ _ hf hg => hg.trans hf

theorem map {h : Forest → Forest} (hr : L.Covers [] r)
    (hh : ∀ f, Tree.textOfList (h f) = Tree.textOfList a ++ Tree.textOfList f) :
    L.Covers a (h <$> r) := by
  refine fun cs => .map (hr cs) fun p f p' hf => ?_
  rw [hh, List.append_assoc, hf]
  rfl

theorem node (k : Kind) (hr : L.Covers [] r) : L.Covers [] (Reader.node k r) :=
  hr.map fun f => Tree.textOfList_close k f

theorem append (hr : L.Covers a r) (hs : L.Covers [] s) : L.Covers a (r ++ s) := by
  refine fun cs => .append (hr cs) (hs cs) fun p f p' g p'' _ _ hf hg => ?_
  rw [Tree.textOfList_append, List.append_assoc, hg]
  exact hf

theorem append_right [Reader.Stays r] (hr : L.Covers [] r) (hs : L.Covers a s) :
    L.Covers a (r ++ s) := by
  refine fun cs => .append (hr cs).stays (hs cs) ?_
  rintro p _ _ g p'' - - ⟨rfl, rfl⟩ hg
  exact hg

theorem orElse {s : Unit → Reader ρ Forest} (hr : L.Covers a r) (hs : L.Covers a (s ())) :
    L.Covers a (HOrElse.hOrElse r s) :=
  fun cs => .orElse (hr cs) (hs cs)

theorem ahead (hr : L.Covers [] r) : L.Covers [] (Reader.ahead r) :=
  fun cs => .ahead (hr cs) fun _ => rfl

theorem absent (hr : L.Covers [] r) : L.Covers [] (Reader.absent r) :=
  fun cs => .absent (hr cs) fun _ => rfl

theorem many (hr : L.Covers [] r) : L.Covers [] (Reader.many r) := by
  refine fun cs => .many (hr cs) (fun _ => rfl) fun p f p' g p'' _ hf hg => ?_
  rw [Tree.textOfList_append, List.append_assoc, hg]
  exact hf

theorem extend {step : Forest → Reader ρ Forest} (hr : L.Covers [] r)
    (hstep : ∀ f, L.Covers f (step f)) : L.Covers [] (Reader.extend r step) :=
  fun cs => .extend (fun f => hstep f cs) (fun _ _ => rfl)
    (fun _ _ _ _ _ _ hg hh => hh.trans hg) (hr cs) fun _ _ _ _ _ hf hg => hg.trans hf

theorem tokenOf (shape : Shape) (kind : Kind) : L.Covers [] (Reader.tokenOf shape kind) := by
  refine fun cs => .tokenOf shape kind fun p lexeme rest hp hrest _ => ?_
  obtain ⟨hnext, htext⟩ := IsIn.after hp hrest
  refine ⟨hnext, ?_⟩
  rw [Tree.textOfList_append]
  simpa [Tree.textOfList, Tree.text, Place.of] using htext

theorem rawTokenOf (shape : Shape) (kind : Kind) : L.Covers [] (Reader.rawTokenOf shape kind) := by
  refine fun cs => .rawTokenOf shape kind fun p lexeme rest hp hraw => ?_
  refine ⟨isIn_of ((IsIn.raw hp).symm.trans hraw), ?_⟩
  simpa [Tree.textOfList, Tree.text, Place.of] using hraw.symm

theorem finish : L.Covers [] (Reader.finish : Reader ρ Forest) := by
  refine fun cs => .finish fun p hp hrest => ?_
  obtain ⟨hnext, htext⟩ := IsIn.after (x := []) hp hrest
  refine ⟨hnext, ?_⟩
  rw [List.append_nil] at htext
  exact htext

theorem remembered {rule : ρ} (hr : L.Covers [] r) : L.Covers [] (Reader.remembered rule r) := by
  refine fun cs => .remembered (hr cs) (fun p f p' hp hp' hf => ⟨hp', ?_⟩) fun p f p' hp hf => ⟨hf.1, ?_⟩
  · exact hf.trans (IsIn.raw hp)
  · exact hf.2.trans (IsIn.raw hp).symm

end Covers

/-! ### Readers that keep a property -/

/-- A property of neighbouring trees that gaps have, and that holds of trees put together when it
holds of each. -/
class Fits (L : Law ρ) (Q : Forest → Prop) : Prop where
  nil : Q []
  append : ∀ {f g : Forest}, Q (f ++ g) ↔ Q f ∧ Q g
  gap : ∀ {raw rest : List Char} {f : Forest}, L.gaps raw = (f, rest) → Q f

/-- A property that leaves of a kind have. -/
class Admits (Q : Forest → Prop) (k : Kind) : Prop where
  leaf : ∀ cs, Q [.leaf k cs]

/-- A reader that puts behind a forest with a property what has it too, and loses nothing of the
text. -/
class Keeps (L : Law ρ) (Q : Forest → Prop) (a : Forest) (p : Reader ρ Forest) : Prop where
  reads : L.Reads p fun f => Q a → Q f
  covers : L.Covers a p

section

variable {Q R : Forest → Prop} {a : Forest} {p q : Reader ρ Forest}

theorem Keeps.of_nil (h : L.Reads p Q) (hc : L.Covers a p) : L.Keeps Q a p :=
  ⟨h.mono fun _ hf _ => hf, hc⟩

instance keeps_pure : L.Keeps Q a (pure a) := ⟨.pure id, .pure a⟩

instance keeps_fail : L.Keeps Q a Reader.fail := ⟨.fail, .fail⟩

instance keeps_bind {k : Forest → Reader ρ Forest} [hp : L.Keeps Q a p]
    [hk : ∀ f, L.Keeps Q f (k f)] : L.Keeps Q a (p >>= k) where
  reads := Realm.Steps.bind hp.reads (fun f => (hk f).reads)
    fun _ _ _ _ _ _ _ hf hg ha => hg (hf ha)
  covers := hp.covers.bind fun f => (hk f).covers

instance keeps_orElse {q : Unit → Reader ρ Forest} [hp : L.Keeps Q a p] [hq : L.Keeps Q a (q ())] :
    L.Keeps Q a (HOrElse.hOrElse p q) :=
  ⟨.orElse hp.reads hq.reads, .orElse hp.covers hq.covers⟩

instance keeps_ite {c : Prop} [Decidable c] [hp : L.Keeps Q a p] [hq : L.Keeps Q a q] :
    L.Keeps Q a (if c then p else q) := by
  split
  · exact hp
  · exact hq

variable [hQ : L.Fits Q]

theorem Keeps.reads_nil [h : L.Keeps Q [] p] : L.Reads p Q := h.reads.mono fun _ hf => hf hQ.nil

instance keeps_append [hp : L.Keeps Q a p] [hq : L.Keeps Q [] q] : L.Keeps Q a (p ++ q) where
  reads := .append hp.reads hq.reads_nil fun _ _ hf hg ha => hQ.append.2 ⟨hf ha, hg⟩
  covers := hp.covers.append hq.covers

instance (priority := low) keeps_append_right [Reader.Stays p] [hp : L.Keeps Q [] p]
    [hq : L.Keeps Q a q] : L.Keeps Q a (p ++ q) where
  reads := .append hp.reads_nil hq.reads fun _ _ hf hg ha => hQ.append.2 ⟨hf, hg ha⟩
  covers := hp.covers.append_right hq.covers

instance keeps_ahead [hp : L.Keeps Q [] p] : L.Keeps Q [] (Reader.ahead p) :=
  .of_nil (.ahead hp.reads hQ.nil) hp.covers.ahead

instance keeps_absent [hp : L.Keeps Q [] p] : L.Keeps Q [] (Reader.absent p) :=
  .of_nil (.absent hp.reads hQ.nil) hp.covers.absent

instance keeps_opt [hp : L.Keeps Q [] p] : L.Keeps Q [] (Reader.opt p) :=
  .of_nil (.orElse hp.reads_nil (.pure hQ.nil)) (.orElse hp.covers (.pure []))

instance keeps_many [hp : L.Keeps Q [] p] : L.Keeps Q [] (Reader.many p) :=
  .of_nil (.many hp.reads_nil hQ.nil fun _ _ hf hg => hQ.append.2 ⟨hf, hg⟩) hp.covers.many

instance keeps_many1 [hp : L.Keeps Q [] p] : L.Keeps Q [] (Reader.many1 p) := keeps_append

instance keeps_sepBy [hp : L.Keeps Q [] p] [hq : L.Keeps Q [] q] :
    L.Keeps Q [] (Reader.sepBy p q) :=
  keeps_append

instance keeps_extend {step : Forest → Reader ρ Forest} [hp : L.Keeps Q [] p]
    [hstep : ∀ f, L.Keeps Q f (step f)] : L.Keeps Q [] (Reader.extend p step) where
  reads := Realm.Steps.extend (fun f => (hstep f).reads) (fun _ _ hf => hf)
    (fun _ _ _ _ _ _ hg hh hf => hh (hg hf)) hp.reads_nil fun _ _ _ _ _ hf hg _ => hg hf
  covers := hp.covers.extend fun f => (hstep f).covers

theorem keeps_map {h : Forest → Forest} [hp : L.Keeps Q [] p] (hh : ∀ f, Q a → Q f → Q (h f))
    (htext : ∀ f, Tree.textOfList (h f) = Tree.textOfList a ++ Tree.textOfList f) :
    L.Keeps Q a (h <$> p) :=
  ⟨.map hp.reads_nil fun f hf ha => hh f ha hf, hp.covers.map htext⟩

instance keeps_map_append [hp : L.Keeps Q [] p] : L.Keeps Q a ((a ++ ·) <$> p) :=
  keeps_map (fun _ ha hf => hQ.append.2 ⟨ha, hf⟩) fun f => Tree.textOfList_append a f

/-! ### Tokens -/

instance keeps_tokenOf {shape : Shape} {k : Kind} [hk : Admits Q k] :
    L.Keeps Q [] (Reader.tokenOf shape k) :=
  .of_nil (.tokenOf shape k fun _ _ _ _ hgap _ => hQ.append.2 ⟨hQ.gap hgap, hk.leaf _⟩)
    (.tokenOf shape k)

instance keeps_rawTokenOf {shape : Shape} {k : Kind} [hk : Admits Q k] :
    L.Keeps Q [] (Reader.rawTokenOf shape k) :=
  .of_nil (.rawTokenOf shape k fun _ => hk.leaf _) (.rawTokenOf shape k)

instance keeps_finish : L.Keeps Q [] Reader.finish :=
  .of_nil (.finish fun _ _ _ h => hQ.gap h) .finish

variable [Admits Q .token]

instance keeps_sym (s : String) : L.Keeps Q [] (Reader.sym s) := keeps_tokenOf

instance keeps_symBut (s : String) (cs : List Char) : L.Keeps Q [] (Reader.symBut s cs) :=
  keeps_tokenOf

instance keeps_anySym (ss : List String) : L.Keeps Q [] (Reader.anySym ss) := by
  induction ss with
  | nil => exact keeps_fail
  | cons s ss ih => exact keeps_orElse

end

/-! ### Names -/

def Nameless (f : Forest) : Prop := ∀ t ∈ f, t.kind ≠ .name

theorem ne_name_of_isOutside {k : Kind} (h : k.isOutside = true) : k ≠ .name := by
  rintro rfl
  cases h

instance fits_nameless : L.Fits Nameless where
  nil := nofun
  append := List.forall_mem_append
  gap hgap t ht :=
    ne_name_of_isOutside (Tree.isOutside_of_isLoose (L.loose _ t (by rw [hgap]; exact ht)))

instance admits_nameless : Admits Nameless .token :=
  ⟨fun _ _ ht => List.mem_singleton.1 ht ▸ nofun⟩

theorem keeps_nameless_node {k : Kind} (hk : k ≠ .name) {p : Reader ρ Forest} {Q : Forest → Prop}
    (hp : L.Reads p Q) (hc : L.Covers [] p) : L.Keeps Nameless [] (Reader.node k p) := by
  refine .of_nil (.map hp fun f _ => ?_) (hc.node k)
  obtain ⟨us, vs, rfl, hclose, hus⟩ := Tree.close_eq k f
  rw [hclose]
  refine List.forall_mem_append.2 ⟨fun u hu => ne_name_of_isOutside (hus u hu), fun t ht => ?_⟩
  exact List.mem_singleton.1 ht ▸ hk

/-- Neighbouring trees the first name among which is a leaf with a text of a sort. -/
def Named (P : List Char → Prop) : Forest → Prop :=
  Tree.Led (·.kind ≠ .name) fun t => ∃ cs, t = .leaf .name cs ∧ P cs

theorem reads_named {shape : Shape} {P : List Char → Prop}
    (h : ∀ raw f lexeme rest, L.gaps raw = (f, lexeme ++ rest) →
      shape.split? (lexeme ++ rest) = some (lexeme, rest) → P lexeme) :
    L.Reads (Reader.tokenOf shape .name) (Named P) := by
  refine .tokenOf shape .name fun raw f lexeme rest hgap hsplit => ?_
  have hname : Named P [.leaf .name lexeme] :=
    ⟨[], _, [], rfl, nofun, lexeme, rfl, h raw f lexeme rest hgap hsplit⟩
  exact Tree.Led.append_right hname (fits_nameless.gap hgap)

theorem Reads.named_append_left {P : List Char → Prop} {p q : Reader ρ Forest}
    {Q : Forest → Prop} (hp : L.Reads p (Named P)) (hq : L.Reads q Q) :
    L.Reads (p ++ q) (Named P) :=
  .append hp hq fun _ g hf _ => Tree.Led.append_left hf g

theorem Reads.named_append_right {P : List Char → Prop} {p q : Reader ρ Forest}
    (hp : L.Reads p Nameless) (hq : L.Reads q (Named P)) : L.Reads (p ++ q) (Named P) :=
  .append hp hq fun _ _ hf hg => Tree.Led.append_right hg hf

/-- The first name among the parts of a construct is the one that leads in what it is closed
over. -/
theorem Named.part? {P : List Char → Prop} {k : Kind} {us vs : Forest} (h : Named P (us ++ vs))
    (hus : ∀ u ∈ us, u.kind.isOutside = true) :
    ∃ cs, (Tree.node k vs).part? .name = some (.leaf .name cs) ∧ P cs := by
  have hvs := Tree.Led.parts h (fun t ⟨cs, ht, _⟩ => ht ▸ rfl) hus
  obtain ⟨t, hfound, cs, rfl, hcs⟩ := hvs.find? (c := fun t => decide (t.kind = .name))
    (fun t ht => decide_eq_false ht) fun t ⟨cs, ht, _⟩ => ht ▸ rfl
  exact ⟨cs, hfound, hcs⟩

/-! ### Whole texts -/

/-- What a reader reads of a whole text has the property that it has of any text. -/
theorem of_whole {r : Reader ρ Forest} {Q : Forest → Prop} (hr : L.Reads r Q) {cs : List Char}
    {t : Tree} (h : Reader.whole L.gaps r cs = .ok t) : ∃ f, t = .node .item f ∧ Q f := by
  obtain ⟨f, -, rfl, hf⟩ := Realm.Steps.of_whole hr (L.isCut_of cs 0) h
  exact ⟨f, rfl, hf⟩

/-- The tree of a text that is read to its end has the text. -/
theorem text_of_whole {r : Reader ρ Forest} (hr : L.Covers [] r) {cs : List Char} {t : Tree}
    (h : Reader.whole L.gaps (r ++ Reader.finish) cs = .ok t) : t.text = cs := by
  have hend : (L.realmOf cs).Steps (Reader.finish : Reader ρ Forest)
      fun p f _ => Tree.textOfList f = p.raw := by
    refine .finish fun p hp hrest => ?_
    obtain ⟨hnext, htext⟩ := IsIn.after (x := []) hp hrest
    rw [List.append_nil, List.append_nil] at htext
    exact ⟨hnext, htext⟩
  have hall : (L.realmOf cs).Steps (r ++ Reader.finish) fun p f _ => Tree.textOfList f = p.raw := by
    refine .append (hr cs) hend fun p f p' g p'' _ _ hf hg => ?_
    rw [Tree.textOfList_append, hg, hf]
    rfl
  obtain ⟨f, -, rfl, hf⟩ := hall.of_whole rfl h
  exact hf

end Law

end Docent.Scan
