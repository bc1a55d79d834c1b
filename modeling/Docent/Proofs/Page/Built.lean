import Docent.Grammar.Page.Parse
import Docent.Proofs.Page.Gaps
import Docent.Proofs.Scan.Reading
import Mathlib.Logic.Basic

/-!
# How the trees of pages are built

The name of a class or a method is a word, the name of a namespace is words with backslashes
between, a comment is cut out by its shape, and nothing is exported. A reader of pages builds a
forest like that behind another one if the readers that it is built from do, and instances find that
out.
-/

namespace Docent.Page

open Scan Scan.Reader Scan.Law
open Docent.Tree (Everywhere everywhere_nil everywhere_append everywhere_leaf)

/-! ### Trees of pages -/

/-- The backslashes and words after the first word of a path, with the gaps before them, as they are
read from the beginning of a text. -/
inductive PathRest : List Char → Forest → Prop
  | nil (raw : List Char) : PathRest raw []
  | cons {mark word raw rest rest' cs f} : gaps raw = (mark, '\\' :: rest) →
      gaps rest = (word, cs ++ rest') → wordShape (cs ++ rest') = some cs.length →
      PathRest rest' f → PathRest raw (mark ++ .leaf .token ['\\'] :: (word ++ .leaf .item cs :: f))

/-- Words with backslashes between, the first of which begins where a gap ends. -/
def IsPath (f : Forest) : Prop :=
  ∃ cs raw r, f = .leaf .item cs :: r ∧ IsWord cs ∧ wordShape (cs ++ raw) = some cs.length ∧
    PathRest raw r

/-- What holds of a node in the tree of a page. -/
structure IsBuilt (t : Tree) : Prop where
  comment : t.kind = .comment → ∃ cs, t = .leaf .comment cs ∧ Page.comment.Takes cs
  called : t.kind = .classDecl ∨ t.kind = .method →
    ∃ cs, t.part? .name = some (.leaf .name cs) ∧ IsWord cs
  space : t.kind = .namespaceDecl → ∀ u, t.part? .name = some u → ∃ f, u = .node .name f ∧ IsPath f
  unexported : t.kind ≠ .exportDecl

/-- All nodes in neighbouring trees are as they are in pages. -/
abbrev AllBuilt : Forest → Prop := Everywhere IsBuilt

/-- The kinds of nodes that have no part in this. -/
class IsPlain (k : Kind) : Prop where
  built : ∀ t : Tree, t.kind = k → IsBuilt t

theorem isPlain {k : Kind} (hcomment : k ≠ .comment) (hclass : k ≠ .classDecl)
    (hmethod : k ≠ .method) (hspace : k ≠ .namespaceDecl) (hexport : k ≠ .exportDecl) :
    IsPlain k := by
  refine ⟨?_⟩
  rintro t rfl
  refine ⟨fun h => absurd h hcomment, fun h => ?_, fun h => absurd h hspace, hexport⟩
  rcases h with h | h
  · exact absurd h hclass
  · exact absurd h hmethod

instance isPlain_blank : IsPlain .blank := isPlain nofun nofun nofun nofun nofun
instance isPlain_passage : IsPlain .passage := isPlain nofun nofun nofun nofun nofun
instance isPlain_token : IsPlain .token := isPlain nofun nofun nofun nofun nofun
instance isPlain_name : IsPlain .name := isPlain nofun nofun nofun nofun nofun
instance isPlain_body : IsPlain .body := isPlain nofun nofun nofun nofun nofun
instance isPlain_item : IsPlain .item := isPlain nofun nofun nofun nofun nofun
instance isPlain_form (f : Form) : IsPlain (.form f) := isPlain nofun nofun nofun nofun nofun

/-! ### Gaps -/

def IsGapLeaf : Tree → Prop
  | .leaf .blank _ => True
  | .leaf .passage _ => True
  | .leaf .comment cs => comment.Takes cs
  | _ => False

theorem isGapLeaf_gapLeaf? {cs rest : List Char} {t : Tree} (h : gapLeaf? cs = some (t, rest)) :
    IsGapLeaf t := by
  unfold gapLeaf? at h
  split at h
  · cases h
    trivial
  · split at h
    · rename_i hsplit
      cases h
      exact Shape.takes_of_split? hsplit
    · obtain ⟨cut, -, hcut⟩ := Option.map_eq_some_iff.1 h
      cases hcut
      trivial

theorem isGapLeaf_gapsOver (bound cs : List Char) : ∀ t ∈ (gapsOver bound cs).1, IsGapLeaf t := by
  induction bound generalizing cs with
  | nil => exact List.forall_mem_nil _
  | cons c bound ih =>
    rw [gapsOver]
    cases hleaf : gapLeaf? cs with
    | none => exact List.forall_mem_nil _
    | some leaf => exact List.forall_mem_cons.2 ⟨isGapLeaf_gapLeaf? hleaf, ih leaf.2⟩

theorem isGapLeaf_gaps (cs : List Char) : ∀ t ∈ (gaps cs).1, IsGapLeaf t := isGapLeaf_gapsOver cs cs

theorem IsGapLeaf.isLoose {t : Tree} (h : IsGapLeaf t) : t.isLoose = true := by
  match t with
  | .leaf .blank cs => rfl
  | .leaf .passage cs => rfl
  | .leaf .comment cs => rfl

theorem IsGapLeaf.isBuilt {t : Tree} (h : IsGapLeaf t) : AllBuilt [t] := by
  match t with
  | .leaf .blank cs => exact everywhere_leaf.2 (isPlain_blank.built _ rfl)
  | .leaf .passage cs => exact everywhere_leaf.2 (isPlain_passage.built _ rfl)
  | .leaf .comment cs =>
    refine everywhere_leaf.2 ⟨fun _ => ⟨cs, rfl, h⟩, ?_, nofun, nofun⟩
    rintro (hkind | hkind) <;> cases hkind

theorem allBuilt_gap {f : Forest} (h : ∀ t ∈ f, IsGapLeaf t) : AllBuilt f := by
  induction f with
  | nil => exact everywhere_nil _
  | cons t f ih =>
    obtain ⟨ht, hf⟩ := List.forall_mem_cons.1 h
    exact everywhere_append (f := [t]).2 ⟨ht.isBuilt, ih hf⟩

/-! ### What readers build -/

/-- What holds of a forest that a rule gave; blocks and attributes have no names among them. -/
structure IsResult (rule : Rule) (f : Forest) : Prop where
  built : AllBuilt f
  nameless : rule = .block ∨ rule = .attributes → Nameless f

def law : Law Rule where
  gaps
  Result := IsResult
  loose cs t ht := (isGapLeaf_gaps cs t ht).isLoose
  text := text_gaps

/-- A reader that builds what it reads behind a forest. -/
abbrev Builds (a : Forest) (p : Part) : Prop := law.Keeps AllBuilt a p

instance fits_allBuilt : law.Fits AllBuilt where
  nil := everywhere_nil _
  append := everywhere_append
  gap {raw rest f} h := allBuilt_gap fun t ht =>
    isGapLeaf_gaps raw t (by rw [show gaps raw = (f, rest) from h]; exact ht)

instance admits_allBuilt {k : Kind} [hk : IsPlain k] : Law.Admits AllBuilt k :=
  ⟨fun _ => everywhere_leaf.2 (hk.built _ rfl)⟩

section

variable {a : Forest} {p : Part}

instance builds_return_close {k : Kind} [hk : IsPlain k] [Builds [] p] :
    Builds a (do return Tree.close k (a ++ (← p))) :=
  keeps_map (fun _ ha hf => (everywhere_append.2 ⟨ha, hf⟩).close fun _ _ _ _ => hk.built _ rfl)
    fun f => by rw [Tree.textOfList_close, Tree.textOfList_append]

instance builds_node {k : Kind} [hk : IsPlain k] [hp : Builds [] p] : Builds [] (node k p) :=
  .of_nil (.map hp.reads_nil fun _ hf => hf.close fun _ _ _ _ => hk.built _ rfl)
    (hp.covers.node k)

/-- Neighbouring trees the first name among which is a path. -/
def Spaced : Forest → Prop :=
  Tree.Led (·.kind ≠ .name) fun t => ∃ g, t = .node .name g ∧ IsPath g

theorem builds_space [hp : Builds [] p] (hname : law.Reads p fun f => Nameless f ∨ Spaced f) :
    Builds [] (node .namespaceDecl p) := by
  refine .of_nil (.map (hp.reads_nil.and hname) fun f ⟨hf, hnamed⟩ => hf.close ?_)
    (hp.covers.node .namespaceDecl)
  rintro us vs rfl hus
  refine ⟨nofun, ?_, fun _ u hu => ?_, nofun⟩
  · rintro (hkind | hkind) <;> cases hkind
  rcases hnamed with hnone | hled
  · have hkind : u.kind = .name := by simpa using List.find?_some hu
    exact absurd hkind (hnone u (List.mem_append_right us (List.mem_of_find?_eq_some hu)))
  · have hvs := Tree.Led.parts hled (fun t ⟨g, ht, _⟩ => ht ▸ rfl) hus
    obtain ⟨t, hfound, g, rfl, hg⟩ := hvs.find? (c := fun t => decide (t.kind = .name))
      (fun t ht => decide_eq_false ht) fun t ⟨g, ht, _⟩ => ht ▸ rfl
    exact ⟨g, Option.some.inj (hu.symm.trans hfound), hg⟩

theorem nameless_node {k : Kind} (hk : k ≠ .name) [hp : Builds [] p] :
    law.Keeps Nameless [] (node k p) :=
  keeps_nameless_node hk hp.reads hp.covers

theorem builds_called {k : Kind} (hk : k = .classDecl ∨ k = .method) [hp : Builds [] p]
    (hname : law.Reads p (Named IsWord)) : Builds [] (node k p) := by
  refine .of_nil (.map (hp.reads_nil.and hname) fun f ⟨hf, hnamed⟩ => hf.close ?_)
    (hp.covers.node k)
  rintro us vs rfl hus
  rcases hk with rfl | rfl
  · exact ⟨nofun, fun _ => hnamed.part? hus, nofun, nofun⟩
  · exact ⟨nofun, fun _ => hnamed.part? hus, nofun, nofun⟩

end

end Docent.Page
