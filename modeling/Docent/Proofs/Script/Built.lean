import Docent.Grammar.Script.Parse
import Docent.Proofs.Parts
import Docent.Proofs.Shape
import Mathlib.Logic.Basic

/-!
# Where decorators and declarations stand in scripts

Scripts without types keep the decorators of a method inside the method, scripts with types keep
them beside it; few words can stand before a class in the constructs around its declaration.
`AllBuilt` says so of neighbouring trees, and a level says what may stand among them; both are kept
when trees are put together and when a construct is closed over them.
-/

namespace Docent

open Docent.Tree (Everywhere everywhere_nil everywhere_append everywhere_leaf everywhere_node
  preorderOfList solidTextOfList? mem_preorder_trans)

/-! ### Trees of scripts -/

/-- Whether a node of this kind declares a class or stands around a declaration. -/
def Kind.declares : Kind → Bool
  | .classDecl | .abstractClassDecl | .exportDecl | .namespaceDecl => true
  | _ => false

theorem Kind.ne_of_declares {k k' : Kind} (h : k.declares = true) (h' : k'.declares = false) :
    k ≠ k' := by
  rintro rfl
  rw [h] at h'
  cases h'

def Kind.isGap : Kind → Bool
  | .blank | .comment => true
  | _ => false

/-- Whether a node of this kind declares a class. -/
def Kind.isClass : Kind → Bool
  | .classDecl | .abstractClassDecl => true
  | _ => false

namespace Tree

def wordLeaf (s : String) : Tree := .leaf .token s.toList

/-- Whether a tree is the leaf of a word. -/
def isWord (s : String) : Tree → Bool
  | leaf .token cs => cs = s.toList
  | _ => false

/-- Whether a node declares a class that is defined elsewhere. -/
def isAmbient : Tree → Bool
  | node .item ts => ts.head?.any (isWord "declare") && ts.any (·.kind.isClass)
  | _ => false

/-- Whether a node is a class declaration, or what stands around one. -/
def declares (t : Tree) : Bool := t.kind.declares || t.isAmbient

theorem kind_of_isAmbient {t : Tree} (h : t.isAmbient = true) : t.kind = .item := by
  match t with
  | node .item ts => rfl

theorem isAmbient_of_ne {t : Tree} (h : t.kind ≠ .item) : t.isAmbient = false :=
  Bool.eq_false_iff.2 fun ha => h (kind_of_isAmbient ha)

theorem declares_of_isOutside {t : Tree} (h : t.kind.isOutside = true) : t.declares = false := by
  have hne : t.kind ≠ .item := fun hk => by rw [hk] at h; cases h
  rw [declares, isAmbient_of_ne hne, Bool.or_false]
  revert h
  cases t.kind <;> simp [Kind.isOutside, Kind.declares]

end Tree

/-! ### What comes before declarations -/

/-- The trees that are not passed over when a construct is closed. -/
def solidParts (f : Forest) : Forest := f.filter (!·.kind.isOutside)

theorem solidParts_append (f g : Forest) : solidParts (f ++ g) = solidParts f ++ solidParts g :=
  List.filter_append ..

theorem solidParts_eq_nil {f : Forest} (h : ∀ t ∈ f, t.kind.isOutside = true) :
    solidParts f = [] :=
  List.filter_eq_nil_iff.2 fun t ht => by simp [h t ht]

/-- What stands before each declaration among neighbouring trees is related to it. -/
def Leads (R : Forest → Tree → Prop) (f : Forest) : Prop :=
  ∀ us t vs, f = us ++ t :: vs → t.declares = true → R (solidParts us) t

/-- Neighbouring trees none of which declares a class or stands around a class declaration. -/
def Bare (f : Forest) : Prop := ∀ t ∈ f, t.declares = false

section

variable {R S : Forest → Tree → Prop} {f g : Forest}

theorem Leads.mono (h : Leads R f) (himp : ∀ us t, R us t → S us t) : Leads S f :=
  fun us t vs heq ht => himp _ _ (h us t vs heq ht)

theorem Bare.leads (h : Bare f) (R : Forest → Tree → Prop) : Leads R f := by
  rintro us t vs rfl ht
  rw [h t (List.mem_append_right us List.mem_cons_self)] at ht
  cases ht

theorem Leads.append_right (hg : Leads R g) (hf : Bare f) :
    Leads (fun us t => ∃ vs, us = solidParts f ++ vs ∧ R vs t) (f ++ g) := by
  intro us t vs heq ht
  rcases List.append_eq_append_iff.1 heq with ⟨ws, rfl, hg'⟩ | ⟨ws, rfl, hvs⟩
  · exact ⟨solidParts ws, solidParts_append f ws, hg ws t vs hg' ht⟩
  · cases ws with
    | nil =>
      have heq' : g = [] ++ t :: vs := hvs.symm
      exact ⟨[], by rw [List.append_nil, List.append_nil], hg [] t vs heq' ht⟩
    | cons w ws =>
      obtain ⟨rfl, -⟩ := List.cons.inj hvs
      rw [hf t (List.mem_append_right us List.mem_cons_self)] at ht
      cases ht

theorem Leads.append_left (hf : Leads R f) (hg : Bare g) : Leads R (f ++ g) := by
  intro us t vs heq ht
  rcases List.append_eq_append_iff.1 heq with ⟨ws, rfl, hg'⟩ | ⟨ws, rfl, hvs⟩
  · rw [hg t (hg' ▸ List.mem_append_right ws List.mem_cons_self)] at ht
    cases ht
  · cases ws with
    | nil =>
      rw [hg t ((show g = t :: vs from hvs.symm) ▸ List.mem_cons_self)] at ht
      cases ht
    | cons w ws =>
      obtain ⟨rfl, -⟩ := List.cons.inj hvs
      exact hf us t ws rfl ht

theorem leads_singleton {us : Forest} {t : Tree} (hus : ∀ u ∈ us, u.kind.isOutside = true) :
    Leads (fun vs u => vs = [] ∧ u = t) (us ++ [t]) := by
  have hbare : Bare us := fun u hu => Tree.declares_of_isOutside (hus u hu)
  have ht : Leads (fun vs u => vs = [] ∧ u = t) [t] := by
    intro vs u ws heq hu
    cases vs with
    | nil => exact ⟨rfl, (List.cons.inj heq).1.symm⟩
    | cons v vs => simp at heq
  refine (ht.append_right hbare).mono ?_
  rintro vs u ⟨ws, rfl, rfl, rfl⟩
  exact ⟨by rw [solidParts_eq_nil hus, List.append_nil], rfl⟩

theorem Leads.parts {us vs : Forest} (h : Leads R (us ++ vs))
    (hus : ∀ u ∈ us, u.kind.isOutside = true) : Leads R vs := by
  rintro ws t zs rfl ht
  have hall := h (us ++ ws) t zs (by rw [List.append_assoc]) ht
  rwa [solidParts_append, solidParts_eq_nil hus] at hall

end

namespace Script

open Docent.Tree (wordLeaf)

/-- What stands before a class, or a class that is defined elsewhere, in an export: decorators, the
word `export`, and perhaps the word `default`. -/
def Exports (us : Forest) (t : Tree) : Prop :=
  t.kind ≠ .exportDecl ∧ ∃ ds ws, us = ds ++ ws ∧ (∀ u ∈ ds, u.kind = .decorator) ∧
    (ws = [wordLeaf "export"] ∨ ws = [wordLeaf "export", wordLeaf "default"])

/-- What stands before a class that is defined elsewhere: the word `declare`. -/
def Announces (us : Forest) (t : Tree) : Prop :=
  t.kind.isClass = true ∧ us = [wordLeaf "declare"]

/-- The names of the classes that are declared by a kind of declaration. -/
def className? (d : Dialect) : Kind → Option Shape
  | .classDecl =>
    some (wordWhere (if d.types then fun cs => !oneOf classGoesOn cs else d.isName))
  | .abstractClassDecl => some wordShape
  | _ => none

/-- The text of a name is on one line, or it is a string or in brackets. -/
def IsNameText (cs : List Char) : Prop :=
  OneLine cs ∨ ∃ c r, cs = c :: r ∧ (c = '[' ∨ c = '"' ∨ c = '\'')

/-- A name is a passage of the text with nothing blank at its end. -/
structure IsName (t : Tree) : Prop where
  full : t.solidText?.getD [] = t.text
  text : IsNameText t.text

/-- What holds of a node in the tree of a script: there are abstract classes with types only; the
decorators of a method are parts of it without types, and stand beside it with types; a method is
not empty, and no declaration stands directly in it; comments and the names of classes are cut out
by their shapes; a name is on one line unless it is a string or in brackets; nothing declares a namespace; and only certain words
stand before a class that is exported or defined elsewhere. -/
structure IsBuilt (d : Dialect) (t : Tree) : Prop where
  abstract : t.kind = .abstractClassDecl → d.types = true
  body : t.kind = .body → d.types = false → ∀ u ∈ t.kids, u.kind ≠ .decorator
  method : t.kind = .method → d.types = true → ∀ u ∈ t.kids, u.kind ≠ .decorator
  inner : t.kind = .method → ∀ u ∈ t.kids, u.kind.declares = false
  solid : t.kind = .method → ∃ cs, solidTextOfList? t.kids = some cs
  comment : t.kind = .comment → ∃ cs, t = .leaf .comment cs ∧ Script.comment.Takes cs
  called : ∀ shape, className? d t.kind = some shape →
    ∃ cs, t.part? .name = some (.leaf .name cs) ∧ shape.Takes cs
  name : t.kind = .name → IsName t
  space : t.kind ≠ .namespaceDecl
  exports : t.kind = .exportDecl → Leads Exports t.kids
  announces : t.isAmbient = true → Leads Announces t.kids

/-- All nodes in neighbouring trees are as they are in scripts. -/
abbrev AllBuilt (d : Dialect) : Forest → Prop := Everywhere (IsBuilt d)

/-- What may stand among neighbouring trees. -/
inductive Level
  | plain | decorated | all

def Level.Admits : Level → Tree → Prop
  | plain, t => t.kind ≠ .decorator ∧ t.declares = false
  | decorated, t => t.declares = false
  | all, _ => True

/-- Neighbouring trees as they are read at a level. -/
def Level.Holds (d : Dialect) (ℓ : Level) (f : Forest) : Prop :=
  AllBuilt d f ∧ ∀ t ∈ f, ℓ.Admits t

/-- The kinds of nodes that have no part in this, unless they declare what is defined elsewhere. -/
class IsPlain (k : Kind) : Prop where
  admits : ∀ (ℓ : Level) (t : Tree), t.kind = k → t.isAmbient = false → ℓ.Admits t
  built : ∀ (d : Dialect) (t : Tree), t.kind = k → t.isAmbient = false → IsBuilt d t

theorem isBuilt_of_quiet {d : Dialect} {t : Tree} (hdeclares : t.kind.declares = false)
    (hbody : t.kind ≠ .body) (hmethod : t.kind ≠ .method)
    (hcomment : t.kind = .comment → ∃ cs, t = .leaf .comment cs ∧ comment.Takes cs)
    (hname : t.kind = .name → IsName t)
    (hannounces : t.isAmbient = true → Leads Announces t.kids) : IsBuilt d t where
  abstract h := absurd hdeclares (by rw [h]; nofun)
  body h := absurd h hbody
  method h := absurd h hmethod
  inner h := absurd h hmethod
  solid h := absurd h hmethod
  comment := hcomment
  called shape h := by
    revert hdeclares h
    cases t.kind <;> nofun
  name := hname
  space h := absurd hdeclares (by rw [h]; nofun)
  exports h := absurd hdeclares (by rw [h]; nofun)
  announces := hannounces

theorem isPlain {k : Kind} (hdecorator : k ≠ .decorator) (hdeclares : k.declares = false)
    (hbody : k ≠ .body) (hmethod : k ≠ .method) (hcomment : k ≠ .comment) (hname : k ≠ .name) :
    IsPlain k where
  admits := by
    rintro ℓ t rfl hambient
    have hnone : t.declares = false := by rw [Tree.declares, hdeclares, hambient]; rfl
    cases ℓ with
    | plain => exact ⟨hdecorator, hnone⟩
    | decorated => exact hnone
    | all => trivial
  built := by
    rintro d t rfl hambient
    exact isBuilt_of_quiet hdeclares hbody hmethod (absurd · hcomment) (absurd · hname)
      fun h => absurd h (by rw [hambient]; nofun)

instance isPlain_blank : IsPlain .blank := isPlain nofun rfl nofun nofun nofun nofun
instance isPlain_token : IsPlain .token := isPlain nofun rfl nofun nofun nofun nofun
instance isPlain_item : IsPlain .item := isPlain nofun rfl nofun nofun nofun nofun
instance isPlain_form (f : Form) : IsPlain (.form f) := isPlain nofun rfl nofun nofun nofun nofun

theorem isBuilt_of_declares {d : Dialect} {t : Tree} (h : t.kind.declares = true)
    (habstract : t.kind = .abstractClassDecl → d.types = true)
    (hcalled : ∀ shape, className? d t.kind = some shape →
      ∃ cs, t.part? .name = some (.leaf .name cs) ∧ shape.Takes cs)
    (hspace : t.kind ≠ .namespaceDecl) (hexports : t.kind = .exportDecl → Leads Exports t.kids) :
    IsBuilt d t where
  abstract := habstract
  body hb := absurd hb (Kind.ne_of_declares h rfl)
  method hm := absurd hm (Kind.ne_of_declares h rfl)
  inner hm := absurd hm (Kind.ne_of_declares h rfl)
  solid hm := absurd hm (Kind.ne_of_declares h rfl)
  comment hc := absurd hc (Kind.ne_of_declares h rfl)
  called := hcalled
  name hn := absurd hn (Kind.ne_of_declares h rfl)
  space := hspace
  exports := hexports
  announces ha := absurd (Tree.kind_of_isAmbient ha) (Kind.ne_of_declares h rfl)

/-! ### Neighbouring trees -/

theorem allBuilt_kids {d : Dialect} {t : Tree} (h : AllBuilt d [t]) : AllBuilt d t.kids := by
  cases t with
  | leaf k cs => exact everywhere_nil _
  | node k ts => exact (everywhere_node.1 h).2

theorem allBuilt_of_mem {d : Dialect} {t : Tree} {f : Forest} (ht : t ∈ f) (h : AllBuilt d f) :
    AllBuilt d [t] := by
  obtain ⟨us, vs, rfl⟩ := List.append_of_mem ht
  exact (everywhere_append.1 ((everywhere_append (f := us) (g := [t] ++ vs)).1 h).2).1

theorem allBuilt_singleton {d : Dialect} {t : Tree} :
    AllBuilt d [t] ↔ ∀ u ∈ t.preorder, IsBuilt d u := by
  simp [Everywhere, preorderOfList]

theorem allBuilt_of_mem_preorder {d : Dialect} {t u : Tree} (hu : u ∈ t.preorder)
    (h : AllBuilt d [t]) : AllBuilt d [u] :=
  allBuilt_singleton.2 fun v hv => allBuilt_singleton.1 h v (mem_preorder_trans t hu hv)

theorem Level.holds_nil (d : Dialect) (ℓ : Level) : ℓ.Holds d [] := ⟨everywhere_nil _, nofun⟩

theorem Level.holds_append {d : Dialect} {ℓ : Level} {f g : Forest} :
    ℓ.Holds d (f ++ g) ↔ ℓ.Holds d f ∧ ℓ.Holds d g := by
  rw [Holds, Holds, Holds, AllBuilt, everywhere_append, List.forall_mem_append]
  tauto

theorem Level.Holds.of_allBuilt {d : Dialect} {f : Forest} (h : AllBuilt d f) : all.Holds d f :=
  ⟨h, fun _ _ => trivial⟩

theorem Level.Holds.of_plain {d : Dialect} {ℓ : Level} {f : Forest} (h : plain.Holds d f) :
    ℓ.Holds d f :=
  ⟨h.1, fun t ht => by
    have hplain := h.2 t ht
    cases ℓ with
    | plain => exact hplain
    | decorated => exact hplain.2
    | all => trivial⟩

theorem Level.holds_leaf {d : Dialect} {ℓ : Level} {k : Kind} [hk : IsPlain k] (cs : List Char) :
    ℓ.Holds d [.leaf k cs] :=
  ⟨everywhere_leaf.2 (hk.built d _ rfl rfl),
    fun _ ht => List.mem_singleton.1 ht ▸ hk.admits ℓ _ rfl rfl⟩

theorem Level.holds_node {d : Dialect} {ℓ : Level} {k : Kind} {f : Forest}
    (hk : IsBuilt d (.node k f)) (hadmits : ℓ.Admits (.node k f)) (hf : AllBuilt d f) :
    ℓ.Holds d [.node k f] :=
  ⟨everywhere_node.2 ⟨hk, hf⟩, fun _ ht => List.mem_singleton.1 ht ▸ hadmits⟩

theorem Level.admits_node {ℓ : Level} {k : Kind} {f : Forest} (hdecorator : k ≠ .decorator)
    (hdeclares : k.declares = false) (hambient : (Tree.node k f).isAmbient = false) :
    ℓ.Admits (.node k f) := by
  have hnone : (Tree.node k f).declares = false := by
    rw [Tree.declares, hambient, Bool.or_false]
    exact hdeclares
  cases ℓ with
  | plain => exact ⟨hdecorator, hnone⟩
  | decorated => exact hnone
  | all => trivial

theorem Level.admits_name {ℓ : Level} {t : Tree} (h : t.kind = .name) : ℓ.Admits t := by
  have hnone : t.declares = false := by
    rw [Tree.declares, h, Tree.isAmbient_of_ne (h ▸ nofun)]
    rfl
  cases ℓ with
  | plain => exact ⟨h ▸ nofun, hnone⟩
  | decorated => exact hnone
  | all => trivial

theorem isBuilt_name {d : Dialect} {t : Tree} (hkind : t.kind = .name) (h : IsName t) :
    IsBuilt d t := by
  have hne {k : Kind} (hk : Kind.name ≠ k) : t.kind ≠ k := hkind ▸ hk
  have hambient : t.isAmbient = false := Tree.isAmbient_of_ne (hne (by decide))
  refine isBuilt_of_quiet (hkind ▸ rfl) (hne (by decide)) (hne (by decide))
    (fun hcomment => absurd hcomment (hne (by decide))) (fun _ => h) fun hitem => ?_
  rw [hambient] at hitem
  cases hitem

theorem Level.holds_name {d : Dialect} {ℓ : Level} {cs : List Char} (h : IsNameText cs) :
    ℓ.Holds d [.leaf .name cs] :=
  ⟨everywhere_leaf.2 (isBuilt_name rfl ⟨Tree.solidText?_leaf_getD .name cs rfl, h⟩),
    fun _ ht => List.mem_singleton.1 ht ▸ Level.admits_name rfl⟩

theorem Level.admits_of_isOutside {ℓ : Level} {t : Tree} (h : t.kind.isOutside = true) :
    ℓ.Admits t := by
  have hnone := Tree.declares_of_isOutside h
  cases ℓ with
  | plain => exact ⟨fun hk => (by rw [hk] at h; cases h), hnone⟩
  | decorated => exact hnone
  | all => trivial

def IsGapLeaf : Tree → Prop
  | .leaf .blank _ => True
  | .leaf .comment cs => comment.Takes cs
  | _ => False

theorem Level.holds_gap {d : Dialect} {ℓ : Level} {f : Forest} (h : ∀ t ∈ f, IsGapLeaf t) :
    ℓ.Holds d f := by
  induction f with
  | nil => exact holds_nil d ℓ
  | cons t f ih =>
    refine holds_append (f := [t]).2 ⟨?_, ih fun u hu => h u (List.mem_cons_of_mem _ hu)⟩
    have ht := h t List.mem_cons_self
    match t with
    | .leaf .blank cs => exact holds_leaf cs
    | .leaf .comment cs =>
      have hbuilt : IsBuilt d (.leaf .comment cs) :=
        isBuilt_of_quiet rfl nofun nofun (fun _ => ⟨cs, rfl, ht⟩) nofun nofun
      refine ⟨everywhere_leaf.2 hbuilt, fun u hu => List.mem_singleton.1 hu ▸ ?_⟩
      exact admits_of_isOutside rfl

/-! ### Closing constructs -/

theorem Level.Holds.close {d : Dialect} {ℓ ℓ' : Level} {k : Kind} {f : Forest} (h : ℓ'.Holds d f)
    (hk : ∀ us vs, f = us ++ vs → (∀ u ∈ us, u.kind.isOutside = true) →
      IsBuilt d (.node k vs) ∧ ℓ.Admits (.node k vs)) : ℓ.Holds d (Tree.close k f) := by
  obtain ⟨us, vs, rfl, hclose, hus⟩ := Tree.close_eq k f
  obtain ⟨⟨hbuilt, -⟩, ⟨hparts, -⟩⟩ := holds_append.1 h
  have houtside (u : Tree) (hu : u ∈ us) : ℓ.Admits u := admits_of_isOutside (hus u hu)
  obtain ⟨hnode, hadmits⟩ := hk us vs rfl hus
  rw [hclose]
  exact holds_append.2 ⟨⟨hbuilt, houtside⟩, holds_node hnode hadmits hparts⟩

end Script

end Docent
