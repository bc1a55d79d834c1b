import Docent.Proofs.Solid
import Mathlib.Data.List.Basic

/-!
# Parts of constructs

Which nodes lie below others, and what becomes of neighbouring trees when a construct is closed over
them: what can stand between two tokens stays outside if it comes first, everything else becomes a
part.
-/

namespace Docent

/-- The kinds of the leaves that a construct never begins with. -/
def Kind.isOutside : Kind → Bool
  | .blank | .comment | .passage => true
  | _ => false

namespace Tree

theorem eq_node_of_mem_kids {t u : Tree} (h : u ∈ t.kids) : t = .node t.kind t.kids := by
  cases t with
  | leaf k cs => cases h
  | node k ts => rfl

/-! ### Nodes below nodes -/

theorem preorderOfList_append (f g : Forest) :
    preorderOfList (f ++ g) = preorderOfList f ++ preorderOfList g := by
  induction f with
  | nil => rfl
  | cons t f ih => rw [List.cons_append, preorderOfList, preorderOfList, ih, List.append_assoc]

theorem self_mem_preorder (t : Tree) : t ∈ t.preorder := by
  cases t with
  | leaf k cs => exact List.mem_singleton_self _
  | node k ts => exact List.mem_cons_self

theorem mem_preorderOfList {u : Tree} {f : Forest} :
    u ∈ preorderOfList f ↔ ∃ t ∈ f, u ∈ t.preorder := by
  induction f with
  | nil => simp [preorderOfList]
  | cons t f ih => simp [preorderOfList, ih]

mutual

theorem mem_preorder_trans {u v : Tree} : (t : Tree) → u ∈ t.preorder → v ∈ u.preorder →
    v ∈ t.preorder
  | .leaf k cs, hu, hv => by
    obtain rfl := List.mem_singleton.1 hu
    exact hv
  | .node k ts, hu, hv => by
    rcases List.mem_cons.1 hu with rfl | hu
    · exact hv
    · exact List.mem_cons_of_mem _ (mem_preorderOfList_trans ts hu hv)

theorem mem_preorderOfList_trans {u v : Tree} : (ts : Forest) → u ∈ preorderOfList ts →
    v ∈ u.preorder → v ∈ preorderOfList ts
  | [], hu, _ => by cases hu
  | t :: ts, hu, hv => by
    rw [preorderOfList, List.mem_append] at hu ⊢
    exact hu.imp (mem_preorder_trans t · hv) (mem_preorderOfList_trans ts · hv)

end

/-! ### Closing constructs -/

theorem close_eq (k : Kind) (f : Forest) : ∃ us vs, f = us ++ vs ∧
    close k f = us ++ [.node k vs] ∧ ∀ u ∈ us, u.kind.isOutside = true := by
  fun_induction close k f with
  | case1 cs rest ih =>
    obtain ⟨us, vs, rfl, hclose, hus⟩ := ih
    exact ⟨.leaf .blank cs :: us, vs, rfl, by rw [hclose]; rfl, List.forall_mem_cons.2 ⟨rfl, hus⟩⟩
  | case2 cs rest ih =>
    obtain ⟨us, vs, rfl, hclose, hus⟩ := ih
    exact ⟨.leaf .comment cs :: us, vs, rfl, by rw [hclose]; rfl, List.forall_mem_cons.2 ⟨rfl, hus⟩⟩
  | case3 cs rest ih =>
    obtain ⟨us, vs, rfl, hclose, hus⟩ := ih
    exact ⟨.leaf .passage cs :: us, vs, rfl, by rw [hclose]; rfl, List.forall_mem_cons.2 ⟨rfl, hus⟩⟩
  | case4 f => exact ⟨[], f, rfl, rfl, List.forall_mem_nil _⟩

/-- Whether a tree is a leaf that a construct never begins with. -/
def isLoose : Tree → Bool
  | leaf k _ => k.isOutside
  | node _ _ => false

theorem isOutside_of_isLoose {t : Tree} (h : t.isLoose = true) : t.kind.isOutside = true := by
  cases t with
  | leaf k cs => exact h
  | node k ts => cases h

theorem close_cons {k : Kind} {t : Tree} (ht : t.isLoose = false) (vs : Forest) :
    close k (t :: vs) = [.node k (t :: vs)] := by
  match t with
  | .node k' ts => rfl
  | .leaf k' cs => cases k' <;> first | rfl | cases ht

theorem close_append {k : Kind} {us : Forest} {t : Tree} (hus : ∀ u ∈ us, u.isLoose = true)
    (ht : t.isLoose = false) (vs : Forest) :
    close k (us ++ t :: vs) = us ++ [.node k (t :: vs)] := by
  induction us with
  | nil => exact close_cons ht vs
  | cons u us ih =>
    obtain ⟨hu, hus⟩ := List.forall_mem_cons.1 hus
    rw [List.cons_append, List.cons_append, ← ih hus]
    match u with
    | .leaf .blank cs => rw [close]
    | .leaf .comment cs => rw [close]
    | .leaf .passage cs => rw [close]

/-- A property of all nodes in neighbouring trees. -/
def Everywhere (P : Tree → Prop) (f : Forest) : Prop := ∀ t ∈ preorderOfList f, P t

section

variable {P : Tree → Prop} {f g : Forest} {k : Kind}

theorem everywhere_nil (P : Tree → Prop) : Everywhere P [] := nofun

theorem everywhere_append : Everywhere P (f ++ g) ↔ Everywhere P f ∧ Everywhere P g := by
  simp only [Everywhere, preorderOfList_append, List.mem_append, or_imp, forall_and]

theorem everywhere_leaf {cs : List Char} : Everywhere P [.leaf k cs] ↔ P (.leaf k cs) := by
  simp [Everywhere, preorderOfList, preorder]

theorem everywhere_node : Everywhere P [.node k f] ↔ P (.node k f) ∧ Everywhere P f := by
  simp [Everywhere, preorderOfList, preorder]

theorem Everywhere.close (h : Everywhere P f)
    (hk : ∀ us vs, f = us ++ vs → (∀ u ∈ us, u.kind.isOutside = true) → P (.node k vs)) :
    Everywhere P (close k f) := by
  obtain ⟨us, vs, rfl, hclose, hus⟩ := close_eq k f
  obtain ⟨houtside, hparts⟩ := everywhere_append.1 h
  rw [hclose]
  exact everywhere_append.2 ⟨houtside, everywhere_node.2 ⟨hk us vs rfl hus, hparts⟩⟩

end

/-- Neighbouring trees among which one of a sort comes after others of a sort. -/
def Led (A B : Tree → Prop) (f : Forest) : Prop :=
  ∃ us t vs, f = us ++ t :: vs ∧ (∀ u ∈ us, A u) ∧ B t

section

variable {A B : Tree → Prop} {f g us vs : Forest}

theorem Led.append_left (h : Led A B f) (g : Forest) : Led A B (f ++ g) := by
  obtain ⟨us, t, vs, rfl, hus, ht⟩ := h
  exact ⟨us, t, vs ++ g, by rw [List.append_assoc, List.cons_append], hus, ht⟩

theorem Led.append_right (h : Led A B g) (hf : ∀ u ∈ f, A u) : Led A B (f ++ g) := by
  obtain ⟨us, t, vs, rfl, hus, ht⟩ := h
  exact ⟨f ++ us, t, vs, by rw [List.append_assoc], List.forall_mem_append.2 ⟨hf, hus⟩, ht⟩

theorem Led.parts (h : Led A B (us ++ vs)) (hB : ∀ t, B t → t.kind.isOutside = false)
    (hus : ∀ u ∈ us, u.kind.isOutside = true) : Led A B vs := by
  induction us with
  | nil => exact h
  | cons u us ih =>
    obtain ⟨ws, t, zs, heq, hws, ht⟩ := h
    have hu := hus u List.mem_cons_self
    cases ws with
    | nil =>
      obtain ⟨rfl, -⟩ := List.cons.inj heq
      rw [hB u ht] at hu
      cases hu
    | cons w ws =>
      obtain ⟨-, heq⟩ := List.cons.inj heq
      exact ih ⟨ws, t, zs, heq, fun v hv => hws v (List.mem_cons_of_mem _ hv), ht⟩
        fun v hv => hus v (List.mem_cons_of_mem _ hv)

theorem Led.find? {c : Tree → Bool} (h : Led A B f) (hA : ∀ t, A t → c t = false)
    (hB : ∀ t, B t → c t = true) : ∃ t, f.find? c = some t ∧ B t := by
  obtain ⟨us, t, vs, rfl, hus, ht⟩ := h
  refine ⟨t, ?_, ht⟩
  have hnone : us.find? c = none := List.find?_eq_none.2 fun u hu => by simp [hA u (hus u hu)]
  rw [List.find?_append, hnone, Option.none_or, List.find?_cons_of_pos (hB t ht)]

end

/-- Neighbouring trees with something solid that a construct can begin with. -/
def Filled (f : Forest) : Prop :=
  Led (fun _ => True) (fun t => t.kind.isOutside = false ∧ ∃ cs, t.solidText? = some cs) f

theorem Filled.append_right {g : Forest} (h : Filled g) (f : Forest) : Filled (f ++ g) :=
  Led.append_right h fun _ _ => trivial

theorem Filled.parts {us vs : Forest} (h : Filled (us ++ vs))
    (hus : ∀ u ∈ us, u.kind.isOutside = true) : ∃ cs, solidTextOfList? vs = some cs := by
  obtain ⟨ws, t, zs, rfl, -, -, cs, hcs⟩ := Led.parts h (fun _ ht => ht.1) hus
  exact solidTextOfList?_of_mem (List.mem_append_right ws List.mem_cons_self) hcs

theorem Filled.close {f : Forest} {k : Kind} (h : Filled f) (hk : k.isOutside = false) :
    Filled (Tree.close k f) := by
  obtain ⟨us, vs, rfl, hclose, hus⟩ := close_eq k f
  rw [hclose]
  exact .append_right ⟨[], .node k vs, [], rfl, nofun, hk, h.parts hus⟩ us

end Tree

end Docent
