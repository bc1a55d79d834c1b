import Docent.Proofs.Json.Written
import Mathlib.Data.List.TakeDrop

/-!
# Reading what JSON writes

Main statement: a text that writes a value, with white space around it, is read as that value; so no
text writes two values.
-/

namespace Docent.Json

open Numeral

/-! ### Strings -/

theorem shortEscape?_u : shortEscape? 'u' = none := by decide

theorem not_isHigh (c : Char) : isHigh c.toNat = false := by
  have hvalid : c.toNat < 0xD800 ∨ 0xDFFF < c.toNat ∧ c.toNat < 0x110000 := c.valid
  rw [isHigh, Bool.and_eq_false_iff, decide_eq_false_iff_not, decide_eq_false_iff_not]
  omega

theorem stringBody_badUnit {u₁ u₂ u₃ u₄ : Char} (h : unit? u₁ u₂ u₃ u₄ = none) (r : List Char) :
    stringBody ('\\' :: 'u' :: u₁ :: u₂ :: u₃ :: u₄ :: r) = none := by
  rw [stringBody.eq_def]
  split <;> grind

theorem stringBody_unit {c u₁ u₂ u₃ u₄ : Char} (h : unit? u₁ u₂ u₃ u₄ = some c.toNat)
    (r : List Char) :
    stringBody ('\\' :: 'u' :: u₁ :: u₂ :: u₃ :: u₄ :: r) =
      (stringBody r).map fun (s, rest) => (c :: s, rest) := by
  rw [stringBody.eq_def]
  split
  case h_3 a₁ a₂ a₃ a₄ b₁ b₂ b₃ b₄ r' heq =>
    -- No character is the first unit of a pair, so that a unit after it is one for itself.
    simp only [List.cons.injEq, true_and] at heq
    obtain ⟨rfl, rfl, rfl, rfl, rfl⟩ := heq
    rw [h]
    cases hsecond : unit? b₁ b₂ b₃ b₄ with
    | none =>
      rw [stringBody_badUnit hsecond]
      rfl
    | some n =>
      simp only [not_isHigh, Bool.false_and, Bool.false_eq_true, if_false, Char.ofNat_toNat]
  all_goals grind [Char.ofNat_toNat]

theorem stringBody_pair {c u₁ u₂ u₃ u₄ v₁ v₂ v₃ v₄ : Char} {high low : Nat}
    (h : unit? u₁ u₂ u₃ u₄ = some high) (h' : unit? v₁ v₂ v₃ v₄ = some low)
    (hhigh : isHigh high = true) (hlow : isLow low = true)
    (hc : c.toNat = 0x10000 + (high - 0xD800) * 0x400 + (low - 0xDC00)) (r : List Char) :
    stringBody ('\\' :: 'u' :: u₁ :: u₂ :: u₃ :: u₄ :: '\\' :: 'u' :: v₁ :: v₂ :: v₃ :: v₄ :: r) =
      (stringBody r).map fun (s, rest) => (c :: s, rest) := by
  have hpair : ofPair high low = c := by rw [ofPair, ← hc, Char.ofNat_toNat]
  rw [stringBody]
  simp only [h, h', hhigh, hlow, Bool.and_self, if_true, hpair]

theorem stringBody_letter {c e : Char} (h : shortEscape? e = some c) (r : List Char) :
    stringBody ('\\' :: e :: r) = (stringBody r).map fun (s, rest) => (c :: s, rest) := by
  have hu : e ≠ 'u' := by
    rintro rfl
    rw [shortEscape?_u] at h
    cases h
  rw [stringBody.eq_def]
  split <;> grind

theorem stringBody_of_writesChar {c : Char} {cs : List Char} (h : WritesChar c cs) (r : List Char) :
    stringBody (cs ++ r) = (stringBody r).map fun (s, rest) => (c :: s, rest) := by
  cases h with
  | plain hc hquote hescape =>
    rw [List.singleton_append, stringBody.eq_def]
    split <;> simp_all
  | letter h => exact stringBody_letter h r
  | unit h => exact stringBody_unit h r
  | pair h h' hhigh hlow hc => exact stringBody_pair h h' hhigh hlow hc r

theorem stringBody_of_writesText {s cs : List Char} (h : WritesText s cs) (r : List Char) :
    stringBody (cs ++ '"' :: r) = some (s, r) := by
  induction h with
  | nil => rw [List.nil_append, stringBody]
  | cons hchar _ ih =>
    rw [List.append_assoc, stringBody_of_writesChar hchar, ih]
    rfl

/-! ### Numbers -/

/-- A number ends before such a text. -/
def Stops (r : List Char) : Prop :=
  ∀ c ∈ r.head?, c.isDigit = false ∧ c ≠ '.' ∧ c ≠ 'e' ∧ c ≠ 'E'

theorem Stops.placesOf {r : List Char} (h : Stops r) : placesOf r = (none, r) := by
  rw [Numeral.placesOf.eq_def]
  split
  · exact absurd rfl (h '.' rfl).2.1
  · rfl

theorem Stops.exponentOf {r : List Char} (h : Stops r) : exponentOf r = (none, r) := by
  cases r with
  | nil => rfl
  | cons c r =>
    have hc := h c rfl
    rw [Numeral.exponentOf.eq_def]
    exact if_neg (not_or.2 hc.2.2)

theorem digitsOf_append {ds r : List Char} (hdigits : ∀ c ∈ ds, c.isDigit = true) (h : Stops r) :
    digitsOf (ds ++ r) = (ds, r) := by
  have hrest : r.takeWhile Char.isDigit = [] ∧ r.dropWhile Char.isDigit = r := by
    cases r with
    | nil => exact ⟨rfl, rfl⟩
    | cons c r =>
      have hc : c.isDigit = false := (h c rfl).1
      rw [List.takeWhile_cons, List.dropWhile_cons, hc]
      exact ⟨rfl, rfl⟩
  rw [digitsOf, List.span_eq_takeWhile_dropWhile, List.takeWhile_append_of_pos hdigits,
    List.dropWhile_append_of_pos hdigits, hrest.1, hrest.2, List.append_nil]

theorem number?_of_writesDigits {n : Nat} {ds r : List Char} (h : WritesDigits n ds) (hr : Stops r)
    (negative : Bool) :
    number? negative (ds ++ r) = some (.int (if negative then -n else n), r) := by
  obtain ⟨d, ds', rfl⟩ := List.exists_cons_of_ne_nil h.nonempty
  have hvalue := h.value
  rw [number?, digitsOf_append h.digits hr]
  simp only [hr.placesOf, hr.exponentOf, hvalue]
  rfl

/-! ### White space -/

theorem skipGap_append {g r : List Char} (hg : Gap g) : skipGap (g ++ r) = skipGap r :=
  List.dropWhile_append_of_pos hg

theorem skipGap_cons {c : Char} (h : isGap c = false) (r : List Char) :
    skipGap (c :: r) = c :: r := by
  rw [skipGap, List.dropWhile_cons, h]
  rfl

theorem skipGap_skipGap (r : List Char) : skipGap (skipGap r) = skipGap r := by
  cases h : skipGap r with
  | nil => rfl
  | cons c r' =>
    have hc : isGap c = false := by
      have hhead := List.head?_dropWhile_not isGap r
      rw [← skipGap, h] at hhead
      simpa using hhead
    exact skipGap_cons hc r'

theorem value?_skipGap (fuel : Nat) (r : List Char) : value? fuel (skipGap r) = value? fuel r := by
  cases fuel with
  | zero => rw [value?, value?]
  | succ fuel => rw [value?, value?, skipGap_skipGap]

theorem member?_skipGap (fuel : Nat) (r : List Char) :
    member? fuel (skipGap r) = member? fuel r := by
  cases fuel with
  | zero => rw [member?, member?]
  | succ fuel => rw [member?, member?, skipGap_skipGap]

/-! ### Where a value begins and ends -/

theorem stops_nil : Stops [] := fun _ h => nomatch h

theorem stops_cons {c : Char} (h : c.isDigit = false ∧ c ≠ '.' ∧ c ≠ 'e' ∧ c ≠ 'E')
    (r : List Char) : Stops (c :: r) := by
  rintro _ ⟨⟩
  exact h

theorem isGap_iff {c : Char} : isGap c = true ↔ c = ' ' ∨ c = '\t' ∨ c = '\n' ∨ c = '\r' := by
  simp only [isGap, Bool.or_eq_true, decide_eq_true_eq, or_assoc]

theorem Stops.after_gap {g r : List Char} (hg : Gap g) (h : Stops r) : Stops (g ++ r) := by
  cases g with
  | nil => exact h
  | cons c g =>
    rintro _ ⟨⟩
    have hc := isGap_iff.1 (hg c List.mem_cons_self)
    rcases hc with rfl | rfl | rfl | rfl <;> decide

theorem ne_of_isDigit {c x : Char} (h : c.isDigit = true) (hx : x.isDigit = false) : c ≠ x := by
  rintro rfl
  rw [h] at hx
  cases hx

theorem isGap_of_isDigit {c : Char} (h : c.isDigit = true) : isGap c = false := by
  rw [Bool.eq_false_iff]
  intro hgap
  rcases isGap_iff.1 hgap with rfl | rfl | rfl | rfl <;> exact absurd h (by decide)

theorem exists_cons_of_writes {v : Value} {cs : List Char} (h : Writes v cs) :
    ∃ c r, cs = c :: r ∧ isGap c = false ∧ c ≠ ']' := by
  cases h with
  | null | yes | no | text _ | emptyList _ | list _ | emptyDict _ | dict _ _ =>
    exact ⟨_, _, rfl, rfl, by decide⟩
  | int h =>
    cases h with
    | positive h =>
      obtain ⟨d, ds', rfl⟩ := List.exists_cons_of_ne_nil h.nonempty
      have hd := h.digits d List.mem_cons_self
      exact ⟨d, ds', rfl, isGap_of_isDigit hd, ne_of_isDigit hd (by decide)⟩
    | negative _ => exact ⟨_, _, rfl, rfl, by decide⟩

/-! ### Entries under distinct keys -/

theorem put_of_fresh {key : String} (v : Value) {es : List (Value × Value)}
    (htext : ∀ e ∈ es, ∃ k, e.1 = .text k) (hfresh : ∀ e ∈ es, e.1 ≠ .text key) :
    Value.put (.text key) v es = es ++ [(.text key, v)] := by
  induction es with
  | nil => rfl
  | cons e es ih =>
    obtain ⟨k, u⟩ := e
    obtain ⟨k, rfl⟩ : ∃ k', k = .text k' := htext _ List.mem_cons_self
    have hother : Value.sameKey (.text k) (.text key) = false := by
      refine decide_eq_false ?_
      rintro rfl
      exact hfresh _ List.mem_cons_self rfl
    have hrest := ih (fun e he => htext e (List.mem_cons_of_mem _ he))
      (fun e he => hfresh e (List.mem_cons_of_mem _ he))
    rw [Value.put, hother, hrest]
    rfl

theorem foldl_put {es : List (Value × Value)} (acc : List (Value × Value))
    (htext : ∀ e ∈ acc ++ es, ∃ k, e.1 = .text k) (hnodup : ((acc ++ es).map Prod.fst).Nodup) :
    es.foldl (fun es e => Value.put e.1 e.2 es) acc = acc ++ es := by
  induction es generalizing acc with
  | nil => exact (List.append_nil acc).symm
  | cons e es ih =>
    obtain ⟨k, v⟩ := e
    obtain ⟨key, rfl⟩ : ∃ key, k = .text key :=
      htext _ (List.mem_append_right acc List.mem_cons_self)
    have hput : Value.put (.text key) v acc = acc ++ [(.text key, v)] := by
      refine put_of_fresh v (fun e he => htext e (List.mem_append_left _ he)) ?_
      intro e he heq
      rw [List.map_append, List.map_cons, List.nodup_middle, List.nodup_cons] at hnodup
      exact hnodup.1 (List.mem_append_left _ (List.mem_map.2 ⟨e, he, heq⟩))
    rw [List.append_cons] at htext hnodup ⊢
    rw [List.foldl_cons, hput]
    exact ih _ htext hnodup

theorem settle_eq_self {es : List (Value × Value)} (htext : ∀ e ∈ es, ∃ k, e.1 = .text k)
    (hnodup : (es.map Prod.fst).Nodup) : settle es = es := foldl_put [] htext hnodup

theorem exists_text_of_writesMember {e : Value × Value} {cs : List Char} (h : WritesMember e cs) :
    ∃ k, e.1 = .text k := by
  cases h
  exact ⟨_, rfl⟩

theorem exists_text_of_writesMembers {es : List (Value × Value)} {cs : List Char}
    (h : WritesMembers es cs) : ∀ e ∈ es, ∃ k, e.1 = .text k := by
  cases h with
  | one h =>
    intro e he
    rw [List.mem_singleton.1 he]
    exact exists_text_of_writesMember h
  | cons h hrest =>
    intro e he
    rcases List.mem_cons.1 he with rfl | he
    · exact exists_text_of_writesMember h
    · exact exists_text_of_writesMembers hrest e he

/-! ### Values -/

theorem value?_gap {g : List Char} (hg : Gap g) (fuel : Nat) (r : List Char) :
    value? fuel (g ++ r) = value? fuel r := by
  rw [← value?_skipGap, skipGap_append hg, value?_skipGap]

theorem skipGap_writes {v : Value} {g cs : List Char} (hg : Gap g) (h : Writes v cs)
    (r : List Char) : ∃ c r', skipGap (g ++ cs ++ r) = c :: r' ∧ c ≠ ']' := by
  obtain ⟨c, r', rfl, hgap, hc⟩ := exists_cons_of_writes h
  refine ⟨c, r' ++ r, ?_, hc⟩
  rw [List.append_assoc, skipGap_append hg, List.cons_append, skipGap_cons hgap]

theorem skipGap_writesItems {vs : List Value} {cs : List Char} (h : WritesItems vs cs)
    (r : List Char) : ∃ c r', skipGap (cs ++ r) = c :: r' ∧ c ≠ ']' := by
  cases h with
  | one hg h _ =>
    rw [List.append_assoc]
    exact skipGap_writes hg h _
  | cons hg h _ _ =>
    rw [List.append_assoc, List.append_assoc]
    exact skipGap_writes hg h _

theorem skipGap_writesMember {e : Value × Value} {cs : List Char} (h : WritesMember e cs)
    (r : List Char) : ∃ r', skipGap (cs ++ r) = '"' :: r' := by
  cases h with
  | mk hg =>
    simp only [List.append_assoc, skipGap_append hg, List.cons_append]
    exact ⟨_, skipGap_cons (by decide) _⟩

theorem skipGap_writesMembers {es : List (Value × Value)} {cs : List Char}
    (h : WritesMembers es cs) (r : List Char) : ∃ r', skipGap (cs ++ r) = '"' :: r' := by
  cases h with
  | one h => exact skipGap_writesMember h r
  | cons h _ =>
    rw [List.append_assoc]
    exact skipGap_writesMember h _

theorem value?_emptyList {g : List Char} (hg : Gap g) (fuel : Nat) (rest : List Char) :
    value? (fuel + 1) ('[' :: g ++ [']'] ++ rest) = some (.list [], rest) := by
  have hend : skipGap (g ++ [']'] ++ rest) = ']' :: rest := by
    rw [List.append_assoc, skipGap_append hg]
    exact skipGap_cons (by decide) rest
  rw [value?, List.cons_append, List.cons_append, skipGap_cons (by decide)]
  simp only [hend]
  rfl

theorem value?_list {fuel : Nat} {r r' rest : List Char} {v : Value} {vs : List Value}
    (hopen : ∃ c r', skipGap r = c :: r' ∧ c ≠ ']') (hv : value? fuel r = some (v, r'))
    (hvs : items? fuel r' = some (vs, rest)) :
    value? (fuel + 1) ('[' :: r) = some (.list (v :: vs), rest) := by
  obtain ⟨c, s, hs, hc⟩ := hopen
  have hfirst : value? fuel (c :: s) = some (v, r') := by rw [← hs, value?_skipGap, hv]
  rw [value?, skipGap_cons (by decide)]
  simp [hs, hc, hfirst, hvs]

theorem items?_end {g : List Char} (hg : Gap g) (fuel : Nat) (rest : List Char) :
    items? (fuel + 1) (g ++ ']' :: rest) = some ([], rest) := by
  rw [items?, skipGap_append hg, skipGap_cons (by decide)]
  rfl

theorem items?_comma {g r r' rest : List Char} {fuel : Nat} {v : Value} {vs : List Value}
    (hg : Gap g) (hv : value? fuel r = some (v, r')) (hvs : items? fuel r' = some (vs, rest)) :
    items? (fuel + 1) (g ++ ',' :: r) = some (v :: vs, rest) := by
  rw [items?, skipGap_append hg, skipGap_cons (by decide)]
  simp only [hv, hvs]
  rfl

theorem value?_emptyDict {g : List Char} (hg : Gap g) (fuel : Nat) (rest : List Char) :
    value? (fuel + 1) ('\x7b' :: g ++ ['\x7d'] ++ rest) = some (.dict [], rest) := by
  have hend : skipGap (g ++ ['\x7d'] ++ rest) = '\x7d' :: rest := by
    rw [List.append_assoc, skipGap_append hg]
    exact skipGap_cons (by decide) rest
  rw [value?, List.cons_append, List.cons_append, skipGap_cons (by decide)]
  simp only [hend]
  rfl

theorem value?_dict {fuel : Nat} {r r' rest : List Char} {e : Value × Value}
    {es : List (Value × Value)} (hopen : ∃ r', skipGap r = '"' :: r')
    (he : member? fuel r = some (e, r')) (hes : entries? fuel r' = some (es, rest)) :
    value? (fuel + 1) ('\x7b' :: r) = some (.dict (settle (e :: es)), rest) := by
  obtain ⟨s, hs⟩ := hopen
  have hfirst : member? fuel ('"' :: s) = some (e, r') := by rw [← hs, member?_skipGap, he]
  rw [value?, skipGap_cons (by decide)]
  simp [hs, hfirst, hes]

theorem entries?_end {g : List Char} (hg : Gap g) (fuel : Nat) (rest : List Char) :
    entries? (fuel + 1) (g ++ '\x7d' :: rest) = some ([], rest) := by
  rw [entries?, skipGap_append hg, skipGap_cons (by decide)]
  rfl

theorem entries?_comma {g r r' rest : List Char} {fuel : Nat} {e : Value × Value}
    {es : List (Value × Value)} (hg : Gap g) (he : member? fuel r = some (e, r'))
    (hes : entries? fuel r' = some (es, rest)) :
    entries? (fuel + 1) (g ++ ',' :: r) = some (e :: es, rest) := by
  rw [entries?, skipGap_append hg, skipGap_cons (by decide)]
  simp only [he, hes]
  rfl

theorem member?_colon {g ks g₁ r rest : List Char} {fuel : Nat} {key : String} {v : Value}
    (hg : Gap g) (hkey : WritesText key.toList ks) (hg₁ : Gap g₁)
    (hv : value? fuel r = some (v, rest)) :
    member? (fuel + 1) (g ++ '"' :: (ks ++ '"' :: (g₁ ++ ':' :: r))) =
      some ((.text key, v), rest) := by
  rw [member?, skipGap_append hg, skipGap_cons (by decide)]
  simp only [stringBody_of_writesText hkey, skipGap_append hg₁, skipGap_cons (c := ':') (by decide),
    hv, String.ofList_toList]
  rfl

theorem value?_text {s : String} {cs : List Char} (h : WritesText s.toList cs) (fuel : Nat)
    (rest : List Char) :
    value? (fuel + 1) ('"' :: cs ++ ['"'] ++ rest) = some (.text s, rest) := by
  rw [value?, List.cons_append, List.cons_append, skipGap_cons (by decide), List.append_assoc,
    List.singleton_append]
  simp [stringBody_of_writesText h]

theorem value?_int {i : Int} {cs : List Char} (h : WritesInt i cs) (fuel : Nat) {rest : List Char}
    (hrest : Stops rest) : value? (fuel + 1) (cs ++ rest) = some (.int i, rest) := by
  cases h with
  | @positive n ds h =>
    have hnumber := number?_of_writesDigits h hrest false
    obtain ⟨d, ds', rfl⟩ := List.exists_cons_of_ne_nil h.nonempty
    have hd := h.digits d List.mem_cons_self
    rw [List.cons_append] at hnumber
    rw [value?, List.cons_append, skipGap_cons (isGap_of_isDigit hd)]
    simp only [ne_of_isDigit hd (x := 'n') (by decide), ne_of_isDigit hd (x := 't') (by decide),
      ne_of_isDigit hd (x := 'f') (by decide), ne_of_isDigit hd (x := '"') (by decide),
      ne_of_isDigit hd (x := '[') (by decide), ne_of_isDigit hd (x := '\x7b') (by decide),
      ne_of_isDigit hd (x := '-') (by decide), if_false, hnumber]
    rfl
  | @negative n ds h =>
    have hnumber := number?_of_writesDigits h hrest true
    rw [value?, List.cons_append, skipGap_cons (by decide)]
    simp [hnumber]

mutual

theorem value?_of_writes {v : Value} {cs : List Char} (h : Writes v cs) {fuel : Nat}
    (hfuel : cs.length ≤ fuel) {rest : List Char} (hrest : Stops rest) :
    value? fuel (cs ++ rest) = some (v, rest) := by
  obtain ⟨n, rfl⟩ : ∃ n, fuel = n + 1 := by
    obtain ⟨c, r, rfl, -⟩ := exists_cons_of_writes h
    exact ⟨fuel - 1, by rw [List.length_cons] at hfuel; omega⟩
  cases h with
  | null | yes | no => rfl
  | int h => exact value?_int h n hrest
  | text h => exact value?_text h n rest
  | emptyList hg => exact value?_emptyList hg n rest
  | @list vs ds h =>
    rw [List.length_append, List.length_cons, List.length_singleton] at hfuel
    obtain ⟨v, vs', r, rfl, hv, hvs⟩ :=
      items?_of_writesItems h (show ds.length + 1 ≤ n by omega) rest
    rw [List.cons_append, List.cons_append, List.append_assoc, List.singleton_append]
    exact value?_list (skipGap_writesItems h _) hv hvs
  | emptyDict hg => exact value?_emptyDict hg n rest
  | @dict es ds h hkeys =>
    rw [List.length_append, List.length_cons, List.length_singleton] at hfuel
    obtain ⟨e, es', r, rfl, he, hes⟩ :=
      entries?_of_writesMembers h (show ds.length + 1 ≤ n by omega) rest
    rw [List.cons_append, List.cons_append, List.append_assoc, List.singleton_append,
      value?_dict (skipGap_writesMembers h _) he hes,
      settle_eq_self (exists_text_of_writesMembers h) hkeys]

theorem items?_of_writesItems {vs : List Value} {cs : List Char} (h : WritesItems vs cs)
    {fuel : Nat} (hfuel : cs.length + 1 ≤ fuel) (rest : List Char) :
    ∃ v vs' r, vs = v :: vs' ∧ value? fuel (cs ++ ']' :: rest) = some (v, r) ∧
      items? fuel r = some (vs', rest) := by
  obtain ⟨n, rfl⟩ : ∃ n, fuel = n + 1 := ⟨fuel - 1, by omega⟩
  cases h with
  | @one v g cs g' hg h hg' =>
    have hstop : Stops (g' ++ ']' :: rest) := Stops.after_gap hg' (stops_cons (by decide) _)
    simp only [List.length_append] at hfuel
    refine ⟨v, [], g' ++ ']' :: rest, rfl, ?_, items?_end hg' n rest⟩
    rw [List.append_assoc, List.append_assoc, value?_gap hg]
    exact value?_of_writes h (by omega) hstop
  | @cons v vs g cs g' ds hg h hg' hitems =>
    have hstop : Stops (g' ++ ',' :: (ds ++ ']' :: rest)) :=
      Stops.after_gap hg' (stops_cons (by decide) _)
    simp only [List.length_append, List.length_cons] at hfuel
    obtain ⟨u, us, r, rfl, hu, hus⟩ :=
      items?_of_writesItems hitems (show ds.length + 1 ≤ n by omega) rest
    refine ⟨v, u :: us, _, rfl, ?_, items?_comma hg' hu hus⟩
    simp only [List.append_assoc, List.cons_append]
    rw [value?_gap hg]
    exact value?_of_writes h (by omega) hstop

theorem member?_of_writesMember {e : Value × Value} {cs : List Char} (h : WritesMember e cs)
    {fuel : Nat} (hfuel : cs.length ≤ fuel) {rest : List Char} (hrest : Stops rest) :
    ∃ g, Gap g ∧ member? fuel (cs ++ rest) = some (e, g ++ rest) := by
  cases h with
  | @mk key v g ks g₁ g₂ cs g' hg hkey hg₁ hg₂ h hg' =>
    simp only [List.length_append, List.length_cons] at hfuel
    obtain ⟨n, rfl⟩ : ∃ n, fuel = n + 1 := ⟨fuel - 1, by omega⟩
    have hv : value? n (g₂ ++ (cs ++ (g' ++ rest))) = some (v, g' ++ rest) := by
      rw [value?_gap hg₂]
      exact value?_of_writes h (by omega) (Stops.after_gap hg' hrest)
    refine ⟨g', hg', ?_⟩
    simpa only [List.append_assoc, List.cons_append] using member?_colon hg hkey hg₁ hv

theorem entries?_of_writesMembers {es : List (Value × Value)} {cs : List Char}
    (h : WritesMembers es cs) {fuel : Nat} (hfuel : cs.length + 1 ≤ fuel) (rest : List Char) :
    ∃ e es' r, es = e :: es' ∧ member? fuel (cs ++ '\x7d' :: rest) = some (e, r) ∧
      entries? fuel r = some (es', rest) := by
  obtain ⟨n, rfl⟩ : ∃ n, fuel = n + 1 := ⟨fuel - 1, by omega⟩
  cases h with
  | one h =>
    obtain ⟨g, hg, he⟩ := member?_of_writesMember h (show cs.length ≤ n + 1 by omega)
      (stops_cons (c := '\x7d') (by decide) rest)
    exact ⟨_, [], g ++ '\x7d' :: rest, rfl, he, entries?_end hg n rest⟩
  | @cons e es cs ds h hmembers =>
    simp only [List.length_append, List.length_cons] at hfuel
    obtain ⟨e', es', r, rfl, he', hes'⟩ :=
      entries?_of_writesMembers hmembers (show ds.length + 1 ≤ n by omega) rest
    obtain ⟨g, hg, he⟩ := member?_of_writesMember h (show cs.length ≤ n + 1 by omega)
      (stops_cons (c := ',') (by decide) (ds ++ '\x7d' :: rest))
    refine ⟨e, e' :: es', _, rfl, ?_, entries?_comma hg he' hes'⟩
    simpa only [List.append_assoc, List.cons_append] using he

end

/-! ### Whole texts -/

/-- A text that writes a value, with white space around it, is read as that value. -/
theorem parse?_of_writes {v : Value} {g cs g' : List Char} (hg : Gap g) (h : Writes v cs)
    (hg' : Gap g') : parse? (g ++ cs ++ g') = some v := by
  have hend : Stops g' := by simpa using Stops.after_gap hg' stops_nil
  have hvalue : value? (2 * (g ++ cs ++ g').length + 2) (g ++ cs ++ g') = some (v, g') := by
    simp only [List.length_append]
    rw [List.append_assoc, value?_gap hg]
    exact value?_of_writes h (by omega) hend
  have hempty : skipGap g' = [] := by simpa [skipGap] using skipGap_append (r := []) hg'
  rw [parse?, hvalue]
  simp [hempty]

theorem eq_of_writes {v v' : Value} {cs : List Char} (h : Writes v cs) (h' : Writes v' cs) :
    v = v' := by
  have hread := parse?_of_writes gap_nil h gap_nil
  rw [parse?_of_writes gap_nil h' gap_nil, Option.some.injEq] at hread
  exact hread.symm

end Docent.Json
