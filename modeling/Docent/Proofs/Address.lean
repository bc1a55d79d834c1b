import Docent.Tree
import Mathlib.Data.List.Basic

/-!
# Addresses of nodes

An address leads from a root to a node: each number picks a part. Two nodes of a tree may look
alike, their addresses differ. Main statement: a walk through a tree meets the nodes at all
addresses of the tree, each once and in lexicographic order, which is the pre-order.
-/

namespace Docent.Tree

/-- The way from a root to a node: each number picks a part. -/
abbrev Address := List Nat

namespace Site

def at? (s : Site) : Address → Option Site
  | [] => some s
  | i :: a => (s.parts[i]?).bind fun p => p.at? a

theorem at?_cons (s : Site) (i : Nat) (a : Address) :
    s.at? (i :: a) = (s.parts[i]?).bind fun p => p.at? a := rfl

theorem at?_append (s : Site) (a b : Address) : s.at? (a ++ b) = (s.at? a).bind (·.at? b) := by
  induction a generalizing s with
  | nil => rfl
  | cons i a ih =>
    rw [List.cons_append, at?_cons, at?_cons]
    cases s.parts[i]? with
    | none => rfl
    | some p => exact ih p

theorem at?_singleton (s : Site) (i : Nat) : s.at? [i] = s.parts[i]? := by
  rw [at?_cons]
  cases s.parts[i]? <;> rfl

theorem at?_concat (s : Site) (a : Address) (i : Nat) :
    s.at? (a ++ [i]) = (s.at? a).bind (·.parts[i]?) := by
  rw [at?_append]
  congr 1
  funext p
  exact p.at?_singleton i

theorem at?_concat_concat (s : Site) (a : Address) (i j : Nat) :
    s.at? (a ++ [i, j]) = (s.at? (a ++ [i])).bind (·.parts[j]?) := by
  rw [← at?_concat, List.append_assoc, List.singleton_append]

end Site

mutual

/-- The addresses of a tree in pre-order. -/
def addresses : Tree → List Address
  | leaf _ _ => [[]]
  | node _ ts => [] :: addressesOfList 0 ts

/-- The addresses of neighbouring parts, numbered from `i` on. -/
def addressesOfList (i : Nat) : List Tree → List Address
  | [] => []
  | t :: ts => (addresses t).map (i :: ·) ++ addressesOfList (i + 1) ts

end

theorem nil_mem_addresses (t : Tree) : [] ∈ addresses t := by
  cases t <;> simp [addresses]

theorem mem_addressesOfList {i : Nat} {ts : List Tree} {a : Address} :
    a ∈ addressesOfList i ts ↔
      ∃ j t b, ts[j]? = some t ∧ a = (i + j) :: b ∧ b ∈ addresses t := by
  induction ts generalizing i with
  | nil => simp [addressesOfList]
  | cons t ts ih =>
    rw [addressesOfList, List.mem_append, List.mem_map, ih]
    constructor
    · rintro (⟨b, hb, rfl⟩ | ⟨j, u, b, hu, rfl, hb⟩)
      · exact ⟨0, t, b, rfl, rfl, hb⟩
      · exact ⟨j + 1, u, b, hu, by rw [Nat.add_assoc, Nat.add_comm 1 j], hb⟩
    · rintro ⟨_ | j, u, b, hu, rfl, hb⟩
      · obtain rfl : t = u := Option.some.inj hu
        exact Or.inl ⟨b, hb, rfl⟩
      · exact Or.inr ⟨j, u, b, hu, by rw [Nat.add_assoc, Nat.add_comm 1 j], hb⟩

theorem cons_mem_addresses {t : Tree} {i : Nat} {a : Address} :
    i :: a ∈ addresses t ↔ ∃ u, t.kids[i]? = some u ∧ a ∈ addresses u := by
  cases t with
  | leaf k cs => simp [addresses, kids]
  | node k ts =>
    simp only [addresses, List.mem_cons, reduceCtorEq, false_or, mem_addressesOfList, kids,
      Nat.zero_add, List.cons.injEq]
    constructor
    · rintro ⟨j, u, b, hu, ⟨rfl, rfl⟩, hb⟩
      exact ⟨u, hu, hb⟩
    · rintro ⟨u, hu, ha⟩
      exact ⟨i, u, a, hu, ⟨rfl, rfl⟩, ha⟩

theorem mem_addresses {s : Site} {a : Address} : a ∈ addresses s.tree ↔ (s.at? a).isSome := by
  induction a generalizing s with
  | nil => simp [nil_mem_addresses, Site.at?]
  | cons i a ih =>
    rw [cons_mem_addresses, ← Site.map_tree_parts, List.getElem?_map, Site.at?_cons]
    cases hp : s.parts[i]? with
    | none => simp
    | some p => simp [ih]

mutual

theorem pairwise_addresses : (t : Tree) → (addresses t).Pairwise (· < ·)
  | leaf _ _ => List.pairwise_singleton _ _
  | node _ ts => by
    rw [addresses, List.pairwise_cons]
    refine ⟨?_, pairwise_addressesOfList 0 ts⟩
    intro a ha
    obtain ⟨j, t, b, -, rfl, -⟩ := mem_addressesOfList.1 ha
    exact List.nil_lt_cons _ _

theorem pairwise_addressesOfList (i : Nat) : (ts : List Tree) →
    (addressesOfList i ts).Pairwise (· < ·)
  | [] => List.Pairwise.nil
  | t :: ts => by
    rw [addressesOfList, List.pairwise_append]
    refine ⟨?_, pairwise_addressesOfList (i + 1) ts, ?_⟩
    · rw [List.pairwise_map]
      exact (pairwise_addresses t).imp fun h => List.cons_lt_cons_iff.2 (Or.inr ⟨rfl, h⟩)
    · intro a ha b hb
      obtain ⟨a, -, rfl⟩ := List.mem_map.1 ha
      obtain ⟨j, u, b, -, rfl, -⟩ := mem_addressesOfList.1 hb
      exact List.cons_lt_cons_iff.2 (Or.inl (by omega))

end

mutual

theorem map_at?_addresses (line : Nat) (before : List Tree) (outer : Option (Kind × List Tree)) :
    (t : Tree) → (addresses t).map (Site.at? ⟨t, line, before, outer⟩) =
      (sitesFrom line before outer t).map some
  | leaf _ _ => rfl
  | node k ts => by
    rw [addresses, sitesFrom, List.map_cons, List.map_cons]
    congr 1
    exact map_at?_addressesOfList ⟨node k ts, line, before, outer⟩ 0 line [] ts rfl

theorem map_at?_addressesOfList (s : Site) (i line : Nat) (before : List Tree) :
    (ts : List Tree) → s.parts.drop i = Site.parts.go s line before ts →
      (addressesOfList i ts).map s.at? =
        (sitesOfList line before (some (s.tree.kind, s.before)) ts).map some
  | [], _ => rfl
  | t :: ts, h => by
    rw [Site.parts.go] at h
    have hpart : s.parts[i]? = some ⟨t, line, before, some (s.tree.kind, s.before)⟩ := by
      rw [← List.head?_drop, h, List.head?_cons]
    have hrest : s.parts.drop (i + 1) =
        Site.parts.go s (line + newlines t) (t :: before) ts := by
      rw [← List.tail_drop, h, List.tail_cons]
    rw [addressesOfList, sitesOfList, List.map_append, List.map_append, List.map_map,
      map_at?_addressesOfList s (i + 1) (line + newlines t) (t :: before) ts hrest,
      ← map_at?_addresses line before (some (s.tree.kind, s.before)) t]
    congr 1
    apply List.map_congr_left
    intro a _
    show s.at? (i :: a) = _
    rw [Site.at?_cons, hpart]
    rfl

end

/-- A walk through a tree meets the node at each address, in the order of the addresses. -/
theorem map_some_sites (t : Tree) :
    t.sites.map some = (addresses t).map (Site.ofRoot t).at? := by
  rw [sites_eq]
  exact (map_at?_addresses 1 [] none t).symm

theorem mem_sites_iff {t : Tree} {s : Site} :
    s ∈ t.sites ↔ ∃ a, (Site.ofRoot t).at? a = some s := by
  have hmap : some s ∈ t.sites.map some ↔ some s ∈ (addresses t).map (Site.ofRoot t).at? := by
    rw [map_some_sites]
  rw [List.mem_map, List.mem_map] at hmap
  constructor
  · intro hs
    obtain ⟨a, -, ha⟩ := hmap.1 ⟨s, hs, rfl⟩
    exact ⟨a, ha⟩
  · rintro ⟨a, ha⟩
    obtain ⟨s', hs', heq⟩ := hmap.2 ⟨a, mem_addresses.2 (by rw [ha]; rfl), ha⟩
    exact Option.some.inj heq ▸ hs'

theorem mem_sites_of_mem_parts {t : Tree} {s p : Site} (hs : s ∈ t.sites) (hp : p ∈ s.parts) :
    p ∈ t.sites := by
  obtain ⟨a, ha⟩ := mem_sites_iff.1 hs
  obtain ⟨i, hi⟩ := List.mem_iff_getElem?.1 hp
  exact mem_sites_iff.2 ⟨a ++ [i], by rw [Site.at?_concat, ha, Option.bind_some, hi]⟩

end Docent.Tree
