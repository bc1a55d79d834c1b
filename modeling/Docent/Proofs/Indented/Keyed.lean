import Docent.Grammar.Indented.Parse
import Docent.Proofs.Parts

/-!
# The parts of definitions

A definition begins with its decorators or with its keyword and ends with its suite, and before its
keyword there is neither a definition nor a suite nor a name; a name is a word. What may stand among
neighbouring trees is told by a level; both levels are kept when trees are put together and when a
construct is closed over them.
-/

namespace Docent.Indented

open Docent.Tree (Everywhere Filled Led solidTextOfList? everywhere_nil everywhere_append
  everywhere_leaf everywhere_node)

/-- Whether a tree is no definition, no suite and no name. -/
def isQuiet : Tree → Bool
  | .leaf .name _ => false
  | .node .name _ => false
  | .node .classDecl _ => false
  | .node .method _ => false
  | .node .body _ => false
  | _ => true

theorem isQuiet_eq_false {t u : Tree} (hkind : t.kind = .classDecl ∨ t.kind = .body)
    (hu : u ∈ t.kids) : isQuiet t = false := by
  rw [Tree.eq_node_of_mem_kids hu]
  rcases hkind with hkind | hkind <;> rw [hkind] <;> rfl

def isGap : Tree → Bool
  | .leaf .blank _ => true
  | _ => false

theorem isLoose_of_isGap {t : Tree} (h : isGap t = true) : t.isLoose = true := by
  match t with
  | .leaf .blank cs => rfl

theorem isQuiet_of_isGap {t v : Tree} (h : isGap t = true) (hv : v ∈ t.preorder) :
    isQuiet v = true := by
  match t with
  | .leaf .blank cs =>
    obtain rfl := List.mem_singleton.1 hv
    rfl

/-! ### Parts of definitions -/

def IsDecorator (d : Tree) : Prop :=
  ∃ ts, d = .node .decorator (.leaf .token ['@'] :: ts) ∧ ∃ t ∈ ts, isForm t = true

/-- What stands before the keyword of a definition: decorators, the first of which comes first, with
no definitions and no suites in them. -/
structure Decorates (ds : Forest) : Prop where
  head : ∀ d ∈ ds.head?, IsDecorator d
  each : ∀ u ∈ ds, IsDecorator u ∨ isGap u = true
  quiet : ∀ u ∈ ds, ∀ v ∈ u.preorder, isQuiet v = true

/-- The parts of a definition: what stands before its keyword, the keyword, and its suite at the
end. -/
def IsDefinition (words : List String) (ts : Forest) : Prop :=
  ∃ ds w hs b, ts = ds ++ .leaf .token w.toList :: (hs ++ [b]) ∧ Decorates ds ∧ w ∈ words ∧
    b.kind = .body ∧ ∃ cs, b.solidText? = some cs

def definitionWords : Kind → List String
  | .classDecl => ["class"]
  | .method => ["def", "async"]
  | _ => []

def IsDefined (t : Tree) : Prop :=
  ∀ k ts, t = .node k ts → k = .classDecl ∨ k = .method → IsDefinition (definitionWords k) ts

/-- In a class there are no definitions and no suites before its first mark. -/
def IsKeyed (t : Tree) : Prop :=
  ∀ ts, t = .node .classDecl ts →
    Led (fun u => ∀ v ∈ u.preorder, isQuiet v = true) (·.kind = .token) ts

def IsCalled (t : Tree) : Prop :=
  t.kind = .name → ∀ c ∈ t.text, isWordChar c = true

theorem IsDefined.isKeyed {t : Tree} (h : IsDefined t) : IsKeyed t := by
  intro ts hts
  obtain ⟨ds, w, hs, b, rfl, hds, -⟩ := h _ ts hts (.inl rfl)
  exact ⟨ds, _, _, rfl, hds.quiet, rfl⟩

/-! ### Levels -/

/-- What may stand among neighbouring trees. -/
inductive Level
  | plain | all

namespace Level

/-- Whether a node may stand somewhere among trees of a level. -/
def Allows : Level → Tree → Prop
  | plain, t => isQuiet t = true
  | all, t => IsDefined t ∧ IsCalled t

/-- Neighbouring trees as they are read at a level. -/
abbrev Holds (ℓ : Level) : Forest → Prop := Everywhere ℓ.Allows

theorem allows_of_quiet {t : Tree} (h : isQuiet t = true) : (ℓ : Level) → ℓ.Allows t
  | plain => h
  | all => by
    refine ⟨?_, fun hname => ?_⟩
    · rintro k ts rfl (rfl | rfl) <;> cases h
    · match t with
      | .leaf k cs =>
        obtain rfl : k = .name := hname
        cases h
      | .node k ts =>
        obtain rfl : k = .name := hname
        cases h

theorem allows_leaf (ℓ : Level) (k : Kind) (hk : k ≠ .name) (cs : List Char) :
    ℓ.Allows (.leaf k cs) := by
  refine allows_of_quiet ?_ ℓ
  cases k <;> first | rfl | exact absurd rfl hk

theorem allows_name {cs : List Char} (h : ∀ c ∈ cs, isWordChar c = true) :
    all.Allows (.leaf .name cs) :=
  ⟨nofun, fun _ => h⟩

theorem Holds.of_plain {f : Forest} (h : plain.Holds f) (ℓ : Level) : ℓ.Holds f :=
  fun t ht => allows_of_quiet (h t ht) ℓ

end Level

/-- The kinds of nodes that have parts and are no definitions and no suites. -/
class IsPlain (k : Kind) : Prop where
  inner : k.IsInner
  quiet : ∀ ts, isQuiet (.node k ts) = true

instance isPlain_item : IsPlain .item := ⟨⟨nofun, nofun⟩, fun _ => rfl⟩
instance isPlain_decorator : IsPlain .decorator := ⟨⟨nofun, nofun⟩, fun _ => rfl⟩
instance isPlain_form (f : Form) : IsPlain (.form f) := ⟨⟨nofun, nofun⟩, fun _ => rfl⟩

/-- The level of the trees that a rule reads: statements may be definitions, and only suites and
what follows an `if` contain statements. -/
def Rule.level : Rule → Level
  | .statements | .block | .elifStatement => .all
  | _ => .plain

/-! ### What is read of a definition -/

def HasForm : Forest → Prop :=
  Led (fun _ => True) fun t => isForm t = true ∧ ∃ cs, t.solidText? = some cs

/-- Neighbouring trees that begin with a token of given text. -/
def BeginsWith (words : List String) (f : Forest) : Prop :=
  ∃ us w hs, f = us ++ .leaf .token w.toList :: hs ∧ (∀ u ∈ us, isGap u = true) ∧ w ∈ words

def EndsWithSuite (f : Forest) : Prop :=
  ∃ hs b, f = hs ++ [b] ∧ b.kind = .body ∧ ∃ cs, b.solidText? = some cs

/-- Neighbouring trees that begin with a decorator and go on with others. -/
def IsDecoratorRun (f : Forest) : Prop :=
  (∃ us d vs, f = us ++ d :: vs ∧ (∀ u ∈ us, isGap u = true) ∧ IsDecorator d) ∧
    ∀ u ∈ f, IsDecorator u ∨ isGap u = true

/-- Neighbouring trees that become a definition when they are closed. -/
def Defines (words : List String) (f : Forest) : Prop :=
  ∃ us vs, f = us ++ vs ∧ (∀ u ∈ us, isGap u = true) ∧ IsDefinition words vs

/-- What a rule gives apart from its level. -/
def Rule.Gives : Rule → Forest → Prop
  | .statements | .simpleStatement => Filled
  | .block => EndsWithSuite
  | .expression | .plainExpression | .starExpression | .starExpressions | .namedExpression
  | .disjunction | .conjunction | .inversion
  | .bitwiseOr | .bitwiseXor | .bitwiseAnd | .shift | .sum | .term | .factor
  | .awaitPrimary | .primary | .atom | .strings | .generator => HasForm
  | _ => fun _ => True

theorem HasForm.filled {f : Forest} (h : HasForm f) : Filled f := by
  obtain ⟨us, t, vs, rfl, hus, hform, hsolid⟩ := h
  refine ⟨us, t, vs, rfl, hus, ?_, hsolid⟩
  revert hform
  unfold isForm
  cases t.kind <;> simp [Kind.isOutside]

theorem HasForm.of_close {f : Forest} (k : Form) (h : Filled f) :
    HasForm (Tree.close (.form k) f) := by
  obtain ⟨us, vs, rfl, hclose, hus⟩ := Tree.close_eq (.form k) f
  rw [hclose]
  exact ⟨us, _, [], rfl, fun _ _ => trivial, rfl, h.parts hus⟩

theorem EndsWithSuite.filled {f : Forest} (h : EndsWithSuite f) : Filled f := by
  obtain ⟨hs, b, rfl, hkind, hsolid⟩ := h
  exact ⟨hs, b, [], rfl, fun _ _ => trivial, hkind ▸ rfl, hsolid⟩

theorem defines_of_keyword {words : List String} {f : Forest} (hbegins : BeginsWith words f)
    (hends : EndsWithSuite f) : Defines words f := by
  obtain ⟨us, w, hs, rfl, hus, hw⟩ := hbegins
  obtain ⟨hs', b, heq, hkind, hsolid⟩ := hends
  refine ⟨us, _, rfl, hus, ?_⟩
  -- the suite comes after the keyword, which is not a suite itself
  rcases List.eq_nil_or_concat hs with rfl | ⟨hs, c, rfl⟩
  · obtain ⟨-, hlast⟩ := List.append_inj' heq rfl
    rw [← (List.cons.inj hlast).1] at hkind
    cases hkind
  · rw [List.concat_eq_append, ← List.cons_append, ← List.append_assoc] at heq
    obtain ⟨-, hlast⟩ := List.append_inj' heq rfl
    obtain rfl := (List.cons.inj hlast).1
    rw [List.concat_eq_append]
    exact ⟨[], w, hs, c, rfl, ⟨nofun, nofun, nofun⟩, hw, hkind, hsolid⟩

theorem Defines.decorated {words : List String} {f g : Forest} (hf : IsDecoratorRun f)
    (hquiet : Level.plain.Holds f) (hbegins : BeginsWith words g) (hends : EndsWithSuite g) :
    Defines words (f ++ g) := by
  obtain ⟨⟨us, d, vs, rfl, hus, hd⟩, heach⟩ := hf
  obtain ⟨ws, _, rfl, hws, ds, w, hs, b, rfl, hds, hw, hb⟩ := defines_of_keyword hbegins hends
  refine ⟨us, d :: vs ++ ws ++ (ds ++ .leaf .token w.toList :: (hs ++ [b])), by simp, hus,
    d :: vs ++ ws ++ ds, w, hs, b, by simp, ⟨?_, ?_, ?_⟩, hw, hb⟩
  · rintro _ ⟨⟩
    exact hd
  · intro u hu
    rcases List.mem_append.1 hu with hu | hu
    · rcases List.mem_append.1 hu with hu | hu
      · exact heach u (List.mem_append_right us hu)
      · exact .inr (hws u hu)
    · exact hds.each u hu
  · intro u hu v hv
    rcases List.mem_append.1 hu with hu | hu
    · rcases List.mem_append.1 hu with hu | hu
      · exact hquiet v (Tree.mem_preorderOfList.2 ⟨u, List.mem_append_right us hu, hv⟩)
      · exact isQuiet_of_isGap (hws u hu) hv
    · exact hds.quiet u hu v hv

theorem Defines.close {k : Kind} {f : Forest} (h : Defines (definitionWords k) f)
    (hf : Level.all.Holds f) : Level.all.Holds (Tree.close k f) := by
  obtain ⟨us, vs, rfl, hus, hvs⟩ := h
  have hloose : ∀ u ∈ us, u.isLoose = true := fun u hu => isLoose_of_isGap (hus u hu)
  have hdefined : Level.all.Allows (.node k vs) := by
    refine ⟨fun k' ts heq _ => ?_, fun hname => ?_⟩
    · obtain ⟨rfl, rfl⟩ := Tree.node.inj heq
      exact hvs
    · obtain rfl : k = .name := hname
      obtain ⟨ds, w, hs, b, -, -, hw, -⟩ := hvs
      cases hw
  obtain ⟨hgaps, hparts⟩ := everywhere_append.1 hf
  obtain ⟨ds, w, hs, b, rfl, hds, -⟩ := hvs
  obtain ⟨t, ts, heq, ht⟩ : ∃ t ts, ds ++ .leaf .token w.toList :: (hs ++ [b]) = t :: ts ∧
      t.isLoose = false := by
    cases ds with
    | nil => exact ⟨_, _, rfl, rfl⟩
    | cons d ds =>
      obtain ⟨_, rfl, -⟩ := hds.head d rfl
      exact ⟨_, _, rfl, rfl⟩
  rw [heq] at hdefined hparts ⊢
  rw [Tree.close_append hloose ht]
  exact everywhere_append.2 ⟨hgaps, everywhere_node.2 ⟨hdefined, hparts⟩⟩

theorem isDecoratorRun_close {f : Forest} (hbegins : BeginsWith ["@"] f) (hform : HasForm f) :
    IsDecoratorRun (Tree.close .decorator f) := by
  obtain ⟨us, w, hs, rfl, hus, hw⟩ := hbegins
  obtain rfl := List.mem_singleton.1 hw
  have hloose : ∀ u ∈ us, u.isLoose = true := fun u hu => isLoose_of_isGap (hus u hu)
  rw [Tree.close_append hloose rfl]
  obtain ⟨ws, t, zs, heq, -, ht, -⟩ := hform
  have hmem : t ∈ us ++ .leaf .token "@".toList :: hs := by rw [heq]; simp
  have hd : IsDecorator (.node .decorator (.leaf .token "@".toList :: hs)) := by
    refine ⟨hs, rfl, t, ?_, ht⟩
    rcases List.mem_append.1 hmem with hmem | hmem
    · have hgap := hus t hmem
      match t with
      | .leaf .blank cs => cases ht
    · rcases List.mem_cons.1 hmem with rfl | hmem
      · cases ht
      · exact hmem
  refine ⟨⟨us, _, [], rfl, hus, hd⟩, fun u hu => ?_⟩
  rcases List.mem_append.1 hu with hu | hu
  · exact .inr (hus u hu)
  · exact .inl (List.mem_singleton.1 hu ▸ hd)

theorem IsDecoratorRun.append {f g : Forest} (hf : IsDecoratorRun f)
    (hg : ∀ u ∈ g, IsDecorator u ∨ isGap u = true) : IsDecoratorRun (f ++ g) := by
  obtain ⟨⟨us, d, vs, rfl, hus, hd⟩, heach⟩ := hf
  exact ⟨⟨us, d, vs ++ g, by simp, hus, hd⟩, List.forall_mem_append.2 ⟨heach, hg⟩⟩

end Docent.Indented
