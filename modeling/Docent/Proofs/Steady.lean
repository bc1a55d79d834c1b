import Docent.Proofs.Shape

/-!
# Shapes that look no further than they take

A shape is steady if what it takes from a text does not depend on what comes after that. A steady
shape that is repeated takes the same before any text that it cannot go on with.
-/

namespace Docent.Shape

variable {a b : Shape}

/-- A shape that takes the same whatever comes after what it takes. -/
class Steady (a : Shape) : Prop where
  apply : ∀ {x y : List Char} {n}, a (x ++ y) = some n → n ≤ x.length → ∀ y', a (x ++ y') = some n

theorem Takes.steady [ha : Steady a] {x : List Char} (h : a.Takes x) (y : List Char) :
    a (x ++ y) = some x.length := by
  obtain ⟨rest, hx⟩ := h
  exact ha.apply hx (Nat.le_refl _) y

theorem one_ne_zero {p : Char → Bool} (cs : List Char) : one p cs ≠ some 0 := by
  cases cs with
  | nil => nofun
  | cons c cs =>
    rw [one]
    split <;> simp

instance steady_one (p : Char → Bool) : Steady (one p) := by
  refine ⟨fun {x y n} h hn y' => ?_⟩
  cases x with
  | nil =>
    obtain rfl : n = 0 := Nat.le_zero.1 hn
    cases y with
    | nil => cases h
    | cons c y =>
      rw [List.nil_append, one] at h
      split at h <;> cases h
  | cons c x => exact h

instance steady_char (c : Char) : Steady (char c) := steady_one _

instance steady_exactly (s : String) : Steady (exactly s) := by
  refine ⟨fun {x y n} h hn y' => ?_⟩
  rw [exactly] at h
  split at h
  · rename_i hfront
    obtain rfl := Option.some.inj h
    rw [← String.length_toList] at hn
    have hx : s.toList <+: x := by
      rw [List.isPrefixOf_iff_prefix] at hfront
      exact List.prefix_of_prefix_length_le hfront (List.prefix_append x y) hn
    rw [exactly, if_pos (List.isPrefixOf_iff_prefix.2 (hx.trans (List.prefix_append x y')))]
  · cases h

instance steady_append [ha : Steady a] [hb : Steady b] : Steady (a ++ b) := by
  refine ⟨fun {x y k} h hk y' => ?_⟩
  rw [append_apply] at h ⊢
  obtain ⟨n, hn, hrest⟩ := Option.bind_eq_some_iff.1 h
  obtain ⟨m, hm, rfl⟩ := Option.map_eq_some_iff.1 hrest
  have hle : n ≤ x.length := by omega
  rw [ha.apply hn hle, Option.bind_some, List.drop_append_of_le_length hle]
  rw [List.drop_append_of_le_length hle] at hm
  rw [hb.apply hm (by rw [List.length_drop]; omega), Option.map_some]

instance steady_times [Steady a] (n : Nat) : Steady (times n a) := by
  induction n with
  | zero => exact ⟨fun h _ _ => h⟩
  | succ n ih => exact steady_append

theorem le_of_go {mark cs : List Char} {k n : Nat} (h : through.go mark cs k = some n) :
    k + mark.length ≤ n := by
  induction cs generalizing k with
  | nil =>
    rw [through.go] at h
    split at h
    · rename_i hmark
      rw [List.isEmpty_iff.1 hmark, List.length_nil]
      exact Nat.le_of_eq (Option.some.inj h)
    · cases h
  | cons c cs ih =>
    rw [through.go] at h
    split at h
    · exact Nat.le_of_eq (Option.some.inj h)
    · have hrest := ih h
      omega

theorem steady_or [ha : Steady a] [hb : Steady b]
    (h : ∀ {x y n}, a (x ++ y) = none → b (x ++ y) = some n → n ≤ x.length → ∀ y', a (x ++ y') = none) :
    Steady (a <|> b) := by
  refine ⟨fun {x y n} hn hle y' => ?_⟩
  rw [orElse_apply] at hn ⊢
  cases ha' : a (x ++ y) with
  | some m =>
    rw [ha', Option.some_or] at hn
    rw [ha.apply (ha'.trans hn) hle y', Option.some_or]
  | none =>
    rw [ha', Option.none_or] at hn
    rw [hb.apply hn hle y', h ha' hn hle y', Option.none_or]

/-- A choice is steady if the first character decides against its first shape wherever the second
one applies. -/
theorem steady_orElse [ha : Steady a] [hb : Steady b] (hpos : ∀ cs, b cs ≠ some 0)
    (h : ∀ c cs cs', a (c :: cs) = none → b (c :: cs) ≠ none → a (c :: cs') = none) :
    Steady (a <|> b) := by
  refine steady_or fun {x y n} hnone hn hle y' => ?_
  cases x with
  | nil =>
    rw [List.length_nil] at hle
    obtain rfl : n = 0 := Nat.le_zero.1 hle
    exact absurd hn (hpos _)
  | cons c x =>
    exact h c (x ++ y) (x ++ y') hnone (by rw [← List.cons_append, hn]; exact Option.some_ne_none n)

theorem go_steady {mark x y : List Char} {k n : Nat} (h : through.go mark (x ++ y) k = some n)
    (hn : n ≤ k + x.length) (y' : List Char) : through.go mark (x ++ y') k = some n := by
  have hmark := le_of_go h
  induction x generalizing k with
  | nil =>
    rw [List.length_nil] at hn
    obtain rfl : mark = [] := List.length_eq_zero_iff.1 (by omega)
    obtain rfl : n = k := by omega
    cases y' <;> rfl
  | cons c x ih =>
    rw [List.cons_append, through.go] at h ⊢
    rw [List.length_cons] at hn
    -- both texts begin with the same characters, as many as the mark has
    have hsame : mark.isPrefixOf (c :: (x ++ y)) = mark.isPrefixOf (c :: (x ++ y')) := by
      have hfront (z : List Char) : mark <+: c :: x ++ z ↔ mark <+: c :: x :=
        ⟨fun hz => List.prefix_of_prefix_length_le hz (List.prefix_append _ z)
          (by rw [List.length_cons]; omega), fun hx => hx.trans (List.prefix_append _ z)⟩
      rw [Bool.eq_iff_iff, List.isPrefixOf_iff_prefix, List.isPrefixOf_iff_prefix]
      exact (hfront y).trans (hfront y').symm
    rw [← hsame]
    split at h
    · rename_i hfront
      rw [if_pos hfront]
      exact h
    · rename_i hfront
      rw [if_neg hfront]
      exact ih h (by omega) (le_of_go h)

instance steady_through (s : String) : Steady (through s) :=
  ⟨fun h hn y' => go_steady h (by omega) y'⟩

theorem split?_append {x y : List Char} (h : a (x ++ y) = some x.length) :
    a.split? (x ++ y) = some (x, y) := by
  rw [split?, h, Option.map_some, List.take_left, List.drop_left]

theorem split?_of_none {cs : List Char} (h : a cs = none) : a.split? cs = none := by
  rw [split?, h, Option.map_none]

/-! ### Repetition -/

theorem repeatOver_nil [ha : Bounded a] (bound : List Char) : repeatOver a bound [] = 0 :=
  Nat.le_zero.1 (repeatOver_le bound [])

theorem repeatOver_congr [ha : Bounded a] {bound bound' cs : List Char}
    (h : cs.length ≤ bound.length) (h' : cs.length ≤ bound'.length) :
    repeatOver a bound cs = repeatOver a bound' cs := by
  induction bound generalizing bound' cs with
  | nil =>
    obtain rfl := List.length_eq_zero_iff.1 (Nat.le_zero.1 h)
    rw [repeatOver_nil, repeatOver_nil]
  | cons c bound ih =>
    cases bound' with
    | nil =>
      obtain rfl := List.length_eq_zero_iff.1 (Nat.le_zero.1 h')
      rw [repeatOver_nil, repeatOver_nil]
    | cons c' bound' =>
      rw [List.length_cons] at h h'
      have hdrop (n : Nat) : (cs.drop (n + 1)).length ≤ bound.length ∧
          (cs.drop (n + 1)).length ≤ bound'.length := by
        rw [List.length_drop]
        omega
      rw [repeatOver, repeatOver]
      split
      · rfl
      · rfl
      · rename_i n _
        rw [ih (hdrop n).1 (hdrop n).2]

theorem many_of_none {cs : List Char} (h : a cs = none) : many a cs = some 0 := by
  cases cs with
  | nil => rfl
  | cons c cs => rw [many, repeatOver, h]

theorem many_of_zero {cs : List Char} (h : a cs = some 0) : many a cs = some 0 := by
  cases cs with
  | nil => rfl
  | cons c cs => rw [many, repeatOver, h]

theorem many_of_some [ha : Bounded a] {cs : List Char} {n : Nat} (h : a cs = some (n + 1)) :
    many a cs = (many a (cs.drop (n + 1))).map (n + 1 + ·) := by
  have hle := ha.le h
  cases cs with
  | nil =>
    rw [List.length_nil] at hle
    omega
  | cons c cs =>
    have hbound : (cs.drop n).length ≤ cs.length := by
      rw [List.length_drop]
      omega
    rw [many, repeatOver, h, many, Option.map_some, List.drop_succ_cons]
    exact congrArg (fun k => some (n + 1 + k)) (repeatOver_congr hbound (Nat.le_refl _))

theorem many_stop [ha : Bounded a] {cs : List Char} {n : Nat} (h : many a cs = some n) :
    a (cs.drop n) = none ∨ a (cs.drop n) = some 0 := by
  induction n using Nat.strongRecOn generalizing cs with
  | ind n ih =>
    cases hcs : a cs with
    | none =>
      rw [many_of_none hcs] at h
      obtain rfl := Option.some.inj h
      exact .inl hcs
    | some k =>
      cases k with
      | zero =>
        rw [many_of_zero hcs] at h
        obtain rfl := Option.some.inj h
        exact .inr hcs
      | succ k =>
        rw [many_of_some hcs] at h
        obtain ⟨m, hm, rfl⟩ := Option.map_eq_some_iff.1 h
        rw [← List.drop_drop]
        exact ih m (by omega) hm

theorem many_steady [ha : Steady a] [Bounded a] {x y y' : List Char}
    (h : many a (x ++ y) = some x.length) (hy : a y' = none) : many a (x ++ y') = some x.length := by
  induction hlength : x.length using Nat.strongRecOn generalizing x with
  | ind k ih =>
    have hstop (h : some 0 = some x.length) : many a (x ++ y') = some k := by
      obtain rfl := List.length_eq_zero_iff.1 (Option.some.inj h).symm
      rw [List.nil_append, many_of_none hy]
      exact congrArg some hlength
    cases hx : a (x ++ y) with
    | none => exact hstop (by rw [← many_of_none hx, h])
    | some n =>
      cases n with
      | zero => exact hstop (by rw [← many_of_zero hx, h])
      | succ n =>
        rw [many_of_some hx] at h
        obtain ⟨m, hm, hsum⟩ := Option.map_eq_some_iff.1 h
        have hle : n + 1 ≤ x.length := by omega
        rw [List.drop_append_of_le_length hle] at hm
        have hdrop : (x.drop (n + 1)).length = m := by
          rw [List.length_drop]
          omega
        have hrest := ih m (by omega) (x := x.drop (n + 1)) (by rw [hdrop]; exact hm) hdrop
        rw [many_of_some (ha.apply hx hle y'), List.drop_append_of_le_length hle, hrest,
          Option.map_some, hsum, hlength]

/-- What is repeated up to a character that it does not take is steady with that character. -/
theorem steady_many_char {p : Char → Bool} {c : Char} (hc : p c = false) :
    Steady (many (one p) ++ char c) := by
  refine ⟨fun {x y n} h hle y' => ?_⟩
  rw [append_apply] at h ⊢
  obtain ⟨k, hk, hrest⟩ := Option.bind_eq_some_iff.1 h
  obtain ⟨m, hm, rfl⟩ := Option.map_eq_some_iff.1 hrest
  have hpos : m ≠ 0 := by
    rintro rfl
    exact one_ne_zero _ hm
  have hkx : k ≤ x.length := by omega
  have htake : (x.take k).length = k := List.length_take_of_le hkx
  have hsplit (z : List Char) : x ++ z = x.take k ++ (x.drop k ++ z) := by
    rw [← List.append_assoc, List.take_append_drop]
  have hnext : one p (x.drop k ++ y') = none := by
    have hfirst := (steady_char c).apply (x := x.drop k) (y := y)
      (by rw [← List.drop_append_of_le_length hkx]; exact hm) (by rw [List.length_drop]; omega) y'
    cases hdrop : x.drop k ++ y' with
    | nil => rfl
    | cons d z =>
      rw [hdrop, char, one] at hfirst
      split at hfirst
      · rename_i hd
        rw [one, of_decide_eq_true hd, hc]
        rfl
      · cases hfirst
  have hmany : many (one p) (x ++ y') = some k := by
    rw [hsplit y] at hk
    have hsteady := many_steady (a := one p) (by rw [htake]; exact hk) hnext
    rw [hsplit y', hsteady, htake]
  rw [hmany, Option.bind_some, List.drop_append_of_le_length hkx]
  rw [List.drop_append_of_le_length hkx] at hm
  rw [(steady_char c).apply hm (by rw [List.length_drop]; omega), Option.map_some]

theorem many1_one_cons (p : Char → Bool) (c : Char) (cs : List Char) :
    many1 (one p) (c :: cs) = if p c then (many (one p) cs).map (1 + ·) else none := by
  change (one p ++ many (one p)) (c :: cs) = _
  rw [append_apply, one]
  split <;> rfl

theorem many1_one_ne_zero {p : Char → Bool} (cs : List Char) : many1 (one p) cs ≠ some 0 := by
  intro h
  obtain ⟨-, -, m, -, -, -, hm⟩ := eq_of_one_append (a := many (one p)) h
  omega

/-- A run of characters is a first one and a run that may be empty. -/
theorem eq_cons_of_many1_one {p : Char → Bool} {x y : List Char}
    (h : many1 (one p) (x ++ y) = some x.length) :
    ∃ c v, x = c :: v ∧ p c = true ∧ many (one p) (v ++ y) = some v.length := by
  obtain ⟨c, r, m, hcs, hc, hm, hlength⟩ := eq_of_one_append (a := many (one p)) h
  cases x with
  | nil =>
    rw [List.length_nil] at hlength
    omega
  | cons d v =>
    obtain ⟨rfl, rfl⟩ := List.cons.inj hcs
    obtain rfl : v.length = m := by
      rw [List.length_cons] at hlength
      omega
    exact ⟨d, v, rfl, hc, hm⟩

theorem many_one_append {p : Char → Bool} {x y : List Char} (hx : ∀ c ∈ x, p c = true)
    (hy : one p y = none) : many (one p) (x ++ y) = some x.length := by
  induction x with
  | nil => exact many_of_none hy
  | cons c x ih =>
    obtain ⟨hc, hx⟩ := List.forall_mem_cons.1 hx
    have hone : one p (c :: x ++ y) = some (0 + 1) := if_pos hc
    have hrest := ih hx
    rw [many_of_some hone, List.cons_append, Nat.zero_add, List.drop_one, List.tail_cons, hrest,
      Option.map_some, List.length_cons, Nat.add_comm]

/-- Characters of a sort are taken as one run before a text that does not begin with one. -/
theorem many1_one_append {p : Char → Bool} {c : Char} {x y : List Char} (hc : p c = true)
    (hx : ∀ d ∈ x, p d = true) (hy : one p y = none) :
    many1 (one p) (c :: x ++ y) = some (c :: x).length := by
  rw [List.cons_append, many1_one_cons, if_pos hc, many_one_append hx hy, Option.map_some,
    List.length_cons, Nat.add_comm]

/-- A run of characters is the same before any text that does not go on with it. -/
theorem many1_one_before {p : Char → Bool} {x y y' : List Char}
    (h : many1 (one p) (x ++ y) = some x.length) (hy : one p y' = none) :
    many1 (one p) (x ++ y') = some x.length := by
  obtain ⟨c, v, rfl, hc, hv⟩ := eq_cons_of_many1_one h
  rw [List.cons_append, many1_one_cons, if_pos hc, many_steady hv hy, Option.map_some,
    List.length_cons, Nat.add_comm]

theorem one_of_many1_one {p : Char → Bool} {x y : List Char}
    (h : many1 (one p) (x ++ y) = some x.length) : one p y = none := by
  obtain ⟨c, v, rfl, -, hv⟩ := eq_cons_of_many1_one h
  have hstop := many_stop hv
  rw [List.drop_left] at hstop
  exact hstop.resolve_right (one_ne_zero _)

/-- What a steady shape and its repeated continuation take somewhere they take before any text that
cannot be gone on with. -/
theorem takes_append_many [ha : Steady a] [hb : Steady b] [Bounded b] {x y : List Char}
    (h : (a ++ many b).Takes x) (hy : b y = none) : (a ++ many b) (x ++ y) = some x.length := by
  obtain ⟨rest, h⟩ := h
  rw [append_apply] at h ⊢
  obtain ⟨n, hn, hrest⟩ := Option.bind_eq_some_iff.1 h
  obtain ⟨m, hm, hsum⟩ := Option.map_eq_some_iff.1 hrest
  have hle : n ≤ x.length := by omega
  have hlength : (x.drop n).length = m := by
    rw [List.length_drop]
    omega
  rw [List.drop_append_of_le_length hle, ← hlength] at hm
  rw [ha.apply hn hle, Option.bind_some, List.drop_append_of_le_length hle, many_steady hm hy,
    Option.map_some, hlength, hsum]

end Docent.Shape
