import Docent.Grammar.Shape
import Mathlib.Data.List.Basic

/-!
# Texts that shapes take

A shape is bounded if it takes no more characters than there are. What it takes from a text is then
a text of its own, which `Takes` tells of.
-/

namespace Docent

/-- Whether a character ends a line, by itself or with another one. -/
def endsLine (c : Char) : Bool := c = '\n' || c = '\r'

/-- A text that no line ends in. -/
def OneLine (cs : List Char) : Prop := ∀ c ∈ cs, endsLine c = false

instance (cs : List Char) : Decidable (OneLine cs) :=
  List.decidableBAll (fun c => endsLine c = false) cs

theorem eq_of_endsLine {c : Char} (h : endsLine c = true) : c = '\n' ∨ c = '\r' := by
  simpa [endsLine] using h

theorem oneLine_nil : OneLine [] := List.forall_mem_nil _

theorem oneLine_append {cs ds : List Char} : OneLine (cs ++ ds) ↔ OneLine cs ∧ OneLine ds :=
  List.forall_mem_append

namespace Shape

variable {a b : Shape}

/-- A shape that takes no more than there is. -/
class Bounded (a : Shape) : Prop where
  le : ∀ {cs n}, a cs = some n → n ≤ cs.length

/-- A text that a shape takes from the beginning of some text. -/
def Takes (a : Shape) (lexeme : List Char) : Prop :=
  ∃ rest, a (lexeme ++ rest) = some lexeme.length

theorem eq_length_of_split? [ha : Bounded a] {cs lexeme rest : List Char}
    (h : a.split? cs = some (lexeme, rest)) : a cs = some lexeme.length := by
  obtain ⟨n, hn, hcut⟩ := Option.map_eq_some_iff.1 h
  obtain ⟨rfl, -⟩ := Prod.mk.injEq _ _ _ _ ▸ hcut
  rw [List.length_take_of_le (ha.le hn)]
  exact hn

theorem takes_of_split? [Bounded a] {cs lexeme rest : List Char}
    (h : a.split? cs = some (lexeme, rest)) : a.Takes lexeme := by
  obtain rfl := append_of_split? h
  exact ⟨rest, eq_length_of_split? h⟩

theorem eq_of_one {p : Char → Bool} {cs : List Char} {n : Nat} (h : one p cs = some n) :
    ∃ c r, cs = c :: r ∧ p c = true ∧ n = 1 := by
  cases cs with
  | nil => cases h
  | cons c cs =>
    rw [one] at h
    split at h
    · rename_i hc
      exact ⟨c, cs, rfl, hc, (Option.some.inj h).symm⟩
    · cases h

instance bounded_one (p : Char → Bool) : Bounded (one p) := by
  refine ⟨fun {cs n} h => ?_⟩
  obtain ⟨c, r, rfl, -, rfl⟩ := eq_of_one h
  exact Nat.le_add_left 1 r.length

instance bounded_char (c : Char) : Bounded (char c) := bounded_one _

instance bounded_exactly (s : String) : Bounded (exactly s) := by
  refine ⟨fun {cs n} h => ?_⟩
  rw [exactly] at h
  split at h
  · rename_i hfront
    cases h
    rw [← String.length_toList]
    exact (List.isPrefixOf_iff_prefix.1 hfront).length_le
  · cases h

theorem eq_of_split?_exactly {s : String} {cs lexeme rest : List Char}
    (h : (exactly s).split? cs = some (lexeme, rest)) : lexeme = s.toList := by
  obtain ⟨n, hn, hcut⟩ := Option.map_eq_some_iff.1 h
  rw [exactly] at hn
  split at hn
  · rename_i hfront
    obtain rfl := Option.some.inj hn
    obtain ⟨tail, rfl⟩ := List.isPrefixOf_iff_prefix.1 hfront
    rw [← String.length_toList, List.take_left] at hcut
    exact (Prod.mk.inj hcut).1.symm
  · cases hn

theorem append_apply (a b : Shape) (cs : List Char) :
    (a ++ b) cs = (a cs).bind fun n => (b (cs.drop n)).map (n + ·) := by
  change andThen a b cs = _
  rw [andThen]
  cases a cs <;> rfl

theorem append_assoc (a b c : Shape) : a ++ b ++ c = a ++ (b ++ c) := by
  funext cs
  simp only [append_apply]
  cases a cs with
  | none => rfl
  | some n =>
    simp only [Option.bind_some]
    cases b (cs.drop n) with
    | none => rfl
    | some m =>
      simp only [Option.map_some, Option.bind_some, Option.map_map, List.drop_drop]
      congr 1
      funext k
      exact Nat.add_assoc n m k

theorem eq_of_exactly_append {s : String} {cs : List Char} {n : Nat}
    (h : (exactly s ++ a) cs = some n) :
    ∃ r m, cs = s.toList ++ r ∧ a r = some m ∧ n = s.length + m := by
  rw [append_apply] at h
  obtain ⟨k, hk, hrest⟩ := Option.bind_eq_some_iff.1 h
  obtain ⟨m, hm, rfl⟩ := Option.map_eq_some_iff.1 hrest
  rw [exactly] at hk
  split at hk
  · rename_i hfront
    obtain rfl := Option.some.inj hk
    obtain ⟨r, rfl⟩ := List.isPrefixOf_iff_prefix.1 hfront
    rw [← String.length_toList, List.drop_left] at hm
    exact ⟨r, m, rfl, hm, rfl⟩
  · cases hk

theorem exactly_append_apply (s : String) (a : Shape) (r : List Char) :
    (exactly s ++ a) (s.toList ++ r) = (a r).map (s.length + ·) := by
  have hfront : s.toList.isPrefixOf (s.toList ++ r) = true :=
    List.isPrefixOf_iff_prefix.2 (List.prefix_append _ _)
  rw [append_apply, exactly, if_pos hfront, Option.bind_some, ← String.length_toList, List.drop_left]

/-- What a shape takes after a text, without the text. -/
theorem exists_of_exactly_append {s : String} {x y : List Char}
    (h : (exactly s ++ a) (x ++ y) = some x.length) :
    ∃ v, x = s.toList ++ v ∧ a (v ++ y) = some v.length := by
  obtain ⟨r, m, hr, hm, hlength⟩ := eq_of_exactly_append h
  have hfront : s.toList <+: x :=
    List.prefix_of_prefix_length_le (hr ▸ List.prefix_append _ _) (List.prefix_append x y)
      (by rw [String.length_toList]; omega)
  obtain ⟨v, rfl⟩ := hfront
  rw [List.append_assoc] at hr
  obtain rfl := List.append_cancel_left hr
  rw [List.length_append, String.length_toList] at hlength
  exact ⟨v, rfl, by rw [hm]; congr 1; omega⟩

theorem eq_of_split?_exactly_absent {s : String} {cs lexeme rest : List Char}
    (h : (exactly s ++ absent a).split? cs = some (lexeme, rest)) : lexeme = s.toList := by
  obtain ⟨n, hn, hcut⟩ := Option.map_eq_some_iff.1 h
  obtain ⟨r, m, rfl, hm, rfl⟩ := eq_of_exactly_append hn
  rw [absent] at hm
  split at hm
  · cases hm
  · obtain rfl := Option.some.inj hm
    rw [Nat.add_zero, ← String.length_toList, List.take_left] at hcut
    exact (Prod.mk.inj hcut).1.symm

theorem eq_of_one_append {p : Char → Bool} {cs : List Char} {n : Nat}
    (h : (one p ++ a) cs = some n) : ∃ c r m, cs = c :: r ∧ p c = true ∧ a r = some m ∧ n = 1 + m := by
  rw [append_apply] at h
  obtain ⟨k, hk, hrest⟩ := Option.bind_eq_some_iff.1 h
  obtain ⟨m, hm, rfl⟩ := Option.map_eq_some_iff.1 hrest
  obtain ⟨c, r, rfl, hc, rfl⟩ := eq_of_one hk
  exact ⟨c, r, m, rfl, hc, hm, rfl⟩

theorem orElse_apply (a b : Shape) (cs : List Char) : (a <|> b) cs = (a cs).or (b cs) := by
  change orElse a (fun _ => b) cs = _
  rw [orElse]
  cases a cs <;> rfl

theorem ne_nil_of_takes_one {p : Char → Bool} {cs : List Char} (h : (one p ++ b).Takes cs) :
    cs ≠ [] := by
  rintro rfl
  obtain ⟨rest, h⟩ := h
  obtain ⟨c, r, m, -, -, -, hlength⟩ := eq_of_one_append h
  rw [List.length_nil] at hlength
  omega

instance bounded_append [ha : Bounded a] [hb : Bounded b] : Bounded (a ++ b) := by
  refine ⟨fun {cs k} h => ?_⟩
  rw [append_apply] at h
  obtain ⟨n, hn, hrest⟩ := Option.bind_eq_some_iff.1 h
  obtain ⟨m, hm, rfl⟩ := Option.map_eq_some_iff.1 hrest
  have hfirst := ha.le hn
  have hsecond := hb.le hm
  rw [List.length_drop] at hsecond
  omega

instance bounded_orElse [ha : Bounded a] [hb : Bounded b] : Bounded (a <|> b) := by
  refine ⟨fun {cs n} h => ?_⟩
  rw [orElse_apply] at h
  cases ha' : a cs with
  | none => exact hb.le (by rwa [ha', Option.none_or] at h)
  | some k =>
    rw [ha', Option.some_or] at h
    exact ha.le (ha'.trans h)

instance bounded_opt [ha : Bounded a] : Bounded (opt a) := by
  refine ⟨fun {cs n} h => ?_⟩
  obtain rfl : (a cs).getD 0 = n := Option.some.inj h
  cases ha' : a cs with
  | none => exact Nat.zero_le _
  | some k => exact ha.le ha'

theorem repeatOver_le [ha : Bounded a] (bound cs : List Char) :
    repeatOver a bound cs ≤ cs.length := by
  induction bound generalizing cs with
  | nil => exact Nat.zero_le _
  | cons c bound ih =>
    rw [repeatOver]
    split
    · exact Nat.zero_le _
    · exact Nat.zero_le _
    · rename_i n hn
      have hfirst := ha.le hn
      have hrest := ih (cs.drop (n + 1))
      rw [List.length_drop] at hrest
      omega

instance bounded_many [Bounded a] : Bounded (many a) := by
  refine ⟨fun {cs n} h => ?_⟩
  obtain rfl : repeatOver a cs cs = n := Option.some.inj h
  exact repeatOver_le cs cs

instance bounded_many1 [Bounded a] : Bounded (many1 a) := bounded_append

instance bounded_absent : Bounded (absent a) := by
  refine ⟨fun {cs n} h => ?_⟩
  rw [absent] at h
  split at h <;> cases h
  exact Nat.zero_le _

instance bounded_times [Bounded a] (n : Nat) : Bounded (times n a) := by
  induction n with
  | zero => exact ⟨fun h => Option.some.inj h ▸ Nat.zero_le _⟩
  | succ n ih => exact bounded_append

theorem length_le_of_through {mark : List Char} {cs : List Char} {k n : Nat}
    (h : through.go mark cs k = some n) : n ≤ k + cs.length := by
  induction cs generalizing k with
  | nil =>
    rw [through.go] at h
    split at h <;> cases h
    simp
  | cons c cs ih =>
    rw [through.go] at h
    split at h
    · rename_i hfront
      have hle := (List.isPrefixOf_iff_prefix.1 hfront).length_le
      cases h
      omega
    · have hrest := ih h
      rw [List.length_cons]
      omega

instance bounded_through (s : String) : Bounded (through s) :=
  ⟨fun h => by simpa using length_le_of_through h⟩

/-! ### Shapes of one line -/

/-- A shape that takes no end of a line. -/
class Linear (a : Shape) : Prop where
  oneLine : ∀ {cs n}, a cs = some n → OneLine (cs.take n)

theorem oneLine_of_split? [ha : Linear a] {cs lexeme rest : List Char}
    (h : a.split? cs = some (lexeme, rest)) : OneLine lexeme := by
  obtain ⟨n, hn, hcut⟩ := Option.map_eq_some_iff.1 h
  obtain ⟨rfl, -⟩ := Prod.mk.injEq _ _ _ _ ▸ hcut
  exact ha.oneLine hn

theorem oneLine_of_takes [ha : Linear a] {cs : List Char} (h : a.Takes cs) : OneLine cs := by
  obtain ⟨rest, h⟩ := h
  have hfront := ha.oneLine h
  rwa [List.take_left] at hfront

theorem linear_one {p : Char → Bool} (hfeed : p '\n' = false) (hreturn : p '\r' = false) :
    Linear (one p) := by
  refine ⟨fun {cs n} h => ?_⟩
  obtain ⟨c, r, rfl, hc, rfl⟩ := eq_of_one h
  refine List.forall_mem_singleton.2 (Bool.eq_false_iff.2 fun hend => ?_)
  rcases eq_of_endsLine hend with rfl | rfl
  · exact Bool.eq_false_iff.1 hfeed hc
  · exact Bool.eq_false_iff.1 hreturn hc

theorem linear_char {c : Char} (hc : endsLine c = false) : Linear (char c) := by
  refine linear_one (decide_eq_false fun heq => ?_) (decide_eq_false fun heq => ?_)
  · rw [← heq] at hc
    cases hc
  · rw [← heq] at hc
    cases hc

theorem linear_exactly {s : String} (hs : OneLine s.toList) : Linear (exactly s) := by
  refine ⟨fun {cs n} h => ?_⟩
  rw [exactly] at h
  split at h
  · rename_i hfront
    obtain rfl := Option.some.inj h
    obtain ⟨tail, rfl⟩ := List.isPrefixOf_iff_prefix.1 hfront
    rwa [← String.length_toList, List.take_left]
  · cases h

instance linear_append [ha : Linear a] [hb : Linear b] : Linear (a ++ b) := by
  refine ⟨fun {cs k} h => ?_⟩
  rw [append_apply] at h
  obtain ⟨n, hn, hrest⟩ := Option.bind_eq_some_iff.1 h
  obtain ⟨m, hm, rfl⟩ := Option.map_eq_some_iff.1 hrest
  rw [List.take_add]
  exact oneLine_append.2 ⟨ha.oneLine hn, hb.oneLine hm⟩

instance linear_orElse [ha : Linear a] [hb : Linear b] : Linear (a <|> b) := by
  refine ⟨fun {cs n} h => ?_⟩
  rw [orElse_apply, Option.or_eq_some_iff] at h
  rcases h with h | ⟨-, h⟩
  · exact ha.oneLine h
  · exact hb.oneLine h

instance linear_opt [ha : Linear a] : Linear (opt a) := by
  refine ⟨fun {cs n} h => ?_⟩
  obtain rfl : (a cs).getD 0 = n := Option.some.inj h
  cases ha' : a cs with
  | none => exact oneLine_nil
  | some k => exact ha.oneLine ha'

theorem oneLine_repeatOver [ha : Linear a] (bound cs : List Char) :
    OneLine (cs.take (repeatOver a bound cs)) := by
  induction bound generalizing cs with
  | nil => exact oneLine_nil
  | cons c bound ih =>
    rw [repeatOver]
    split
    · exact oneLine_nil
    · exact oneLine_nil
    · rename_i n hn
      rw [List.take_add]
      exact oneLine_append.2 ⟨ha.oneLine hn, ih (cs.drop (n + 1))⟩

instance linear_many [Linear a] : Linear (many a) := by
  refine ⟨fun {cs n} h => ?_⟩
  obtain rfl : repeatOver a cs cs = n := Option.some.inj h
  exact oneLine_repeatOver cs cs

instance linear_many1 [Linear a] : Linear (many1 a) := linear_append

instance linear_times [Linear a] (n : Nat) : Linear (times n a) := by
  induction n with
  | zero => exact ⟨fun h => Option.some.inj h ▸ oneLine_nil⟩
  | succ n ih => exact linear_append

instance linear_longer [ha : Linear a] [hb : Linear b] : Linear (longer a b) := by
  refine ⟨fun {cs n} h => ?_⟩
  rw [longer] at h
  split at h
  · rename_i i j hi hj
    obtain rfl := Option.some.inj h
    rcases Nat.le_total i j with hle | hle
    · rw [Nat.max_eq_right hle]
      exact hb.oneLine hj
    · rw [Nat.max_eq_left hle]
      exact ha.oneLine hi
  · rename_i i hi _
    obtain rfl := Option.some.inj h
    exact ha.oneLine hi
  · exact hb.oneLine h

end Shape

end Docent
