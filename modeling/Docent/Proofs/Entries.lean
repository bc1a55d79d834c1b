import Docent.Proofs.Except
import Docent.Yaml.Load

/-!
# Entries of dictionaries

The keys of a dictionary differ from each other, so that what is found under a key is the one entry
that has it, wherever it stands. Dictionaries that a document writes are made so, at every depth:
main statements `distinct_of_value` and `value_of_mem`.
-/

namespace Docent

namespace Value

/-- No two entries are under one key. -/
def Distinct (entries : List (Value × Value)) : Prop :=
  entries.Pairwise fun a b => sameKey a.1 b.1 = false

theorem sameKey_text {k : Value} {key : String} :
    sameKey k (.text key) = true ↔ k = .text key := by
  cases k with
  | text s => simp [sameKey, asInt?]
  | float x =>
    have hnone : asInt? (.text key) = none := rfl
    cases hx : asInt? (.float x) <;> simp [sameKey, hx, hnone]
  | _ => simp [sameKey, asInt?]

theorem mem_of_get? {entries : List (Value × Value)} {key : String} {v : Value}
    (h : get? entries key = some v) : (.text key, v) ∈ entries := by
  induction entries with
  | nil => cases h
  | cons e es ih =>
    obtain ⟨k, w⟩ := e
    simp only [get?, find?] at h
    split at h
    · rename_i hk
      cases h
      rw [sameKey_text.1 hk]
      exact List.mem_cons_self
    · exact List.mem_cons_of_mem _ (ih h)

theorem get?_of_mem {entries : List (Value × Value)} (hd : Distinct entries) {key : String}
    {v : Value} (h : (.text key, v) ∈ entries) : get? entries key = some v := by
  induction entries with
  | nil => cases h
  | cons e es ih =>
    obtain ⟨k, w⟩ := e
    obtain ⟨hfirst, hrest⟩ := List.pairwise_cons.1 hd
    simp only [get?, find?]
    rcases List.mem_cons.1 h with heq | hmem
    · cases heq
      rw [if_pos (sameKey_text.2 rfl)]
    · have hk : ¬ sameKey k (.text key) = true := by
        simp [hfirst _ hmem]
      rw [if_neg hk]
      exact ih hrest hmem

theorem get?_eq_some_iff {entries : List (Value × Value)} (hd : Distinct entries) {key : String}
    {v : Value} : get? entries key = some v ↔ (.text key, v) ∈ entries :=
  ⟨mem_of_get?, get?_of_mem hd⟩

/-- An entry after a put is the one that was put, an old one, or an old one with the new value. -/
theorem of_mem_put {key value : Value} {entries : List (Value × Value)} {e : Value × Value}
    (h : e ∈ put key value entries) :
    e = (key, value) ∨ e ∈ entries ∨ e.2 = value ∧ ∃ e' ∈ entries, e'.1 = e.1 := by
  induction entries with
  | nil => exact .inl (List.mem_singleton.1 h)
  | cons e' es ih =>
    obtain ⟨k, v⟩ := e'
    rw [put] at h
    split at h
    · rcases List.mem_cons.1 h with rfl | hmem
      · exact .inr (.inr ⟨rfl, _, List.mem_cons_self, rfl⟩)
      · exact .inr (.inl (List.mem_cons_of_mem _ hmem))
    · rcases List.mem_cons.1 h with rfl | hmem
      · exact .inr (.inl List.mem_cons_self)
      · rcases ih hmem with heq | hold | ⟨hvalue, e', he', heq⟩
        · exact .inl heq
        · exact .inr (.inl (List.mem_cons_of_mem _ hold))
        · exact .inr (.inr ⟨hvalue, e', List.mem_cons_of_mem _ he', heq⟩)

theorem fst_of_mem_put {key value : Value} {entries : List (Value × Value)} {e : Value × Value}
    (h : e ∈ put key value entries) : e.1 = key ∨ ∃ e' ∈ entries, e'.1 = e.1 := by
  rcases of_mem_put h with rfl | hold | ⟨-, hkey⟩
  · exact .inl rfl
  · exact .inr ⟨e, hold, rfl⟩
  · exact .inr hkey

theorem snd_of_mem_put {key value : Value} {entries : List (Value × Value)} {e : Value × Value}
    (h : e ∈ put key value entries) : e.2 = value ∨ e ∈ entries := by
  rcases of_mem_put h with rfl | hold | ⟨hvalue, -⟩
  · exact .inl rfl
  · exact .inr hold
  · exact .inl hvalue

theorem distinct_put {key value : Value} {entries : List (Value × Value)}
    (h : Distinct entries) : Distinct (put key value entries) := by
  induction entries with
  | nil => exact List.pairwise_singleton ..
  | cons e es ih =>
    obtain ⟨k, v⟩ := e
    obtain ⟨hfirst, hrest⟩ := List.pairwise_cons.1 h
    rw [put]
    split
    · exact List.pairwise_cons.2 ⟨hfirst, hrest⟩
    · rename_i hk
      refine List.pairwise_cons.2 ⟨fun e he => ?_, ih hrest⟩
      rcases fst_of_mem_put he with heq | ⟨e', he', heq⟩
      · simpa [heq] using hk
      · rw [← heq]
        exact hfirst e' he'

end Value

namespace Yaml

/-! ### Scalars -/

/-- The moment of a day and a time of it, each of their numbers in its bounds. -/
def momentOf (year month day hour minute second microsecond : Nat) (offset : Option Int) :
    Except TextFault Value := do
  let d ← dayOf year month day
  inRange hour 0 23 "hour must be in 0..23"
  inRange minute 0 59 "minute must be in 0..59"
  inRange second 0 59 "second must be in 0..59"
  return .moment ⟨d, hour, minute, second, microsecond, offset⟩

theorem outOfRange_of_offsetOf {negative : Bool} {hour minute : Nat} {e : TextFault}
    (h : offsetOf negative hour minute = .error e) : ∃ problem, e = .outOfRange problem := by
  unfold offsetOf at h
  simp only at h
  by_cases hn : (hour : Int) * 60 + minute < 1440
  · rw [if_pos hn] at h
    cases h
  · rw [if_neg hn] at h
    injection h with h
    rw [← h]
    exact ⟨_, rfl⟩

/-- A date is none, a day, or the moment that is made once the distance from universal time is. -/
theorem dateOf_eq (cs : List Char) :
    dateOf cs = .error .notAStamp ∨
    (∃ year month day, dateOf cs = (dayOf year month day).bind fun d => .ok (.day d)) ∨
    ∃ (zone : Except TextFault (Option Int)) (year month day hour minute second micro : Nat),
      (∀ e, zone = .error e → ∃ problem, e = .outOfRange problem) ∧
      dateOf cs = zone.bind (momentOf year month day hour minute second micro) := by
  cases hs : stamp? (withoutFinalLineFeed cs) with
  | none => exact .inl (by simp only [dateOf, hs])
  | some s =>
    obtain ⟨year, month, day, time, zone⟩ := s
    cases time with
    | none => exact .inr (.inl ⟨_, _, _, by simp only [dateOf, hs]; rfl⟩)
    | some time =>
      obtain ⟨hour, minute, second, fraction⟩ := time
      refine .inr (.inr ?_)
      rcases zone with _ | _ | ⟨negative, zh, zm⟩
      · exact ⟨.ok none, _, _, _, _, _, _, _, by rintro e ⟨⟩, by simp only [dateOf, hs]; rfl⟩
      · exact ⟨.ok (some 0), _, _, _, _, _, _, _, by rintro e ⟨⟩, by simp only [dateOf, hs]; rfl⟩
      · have hzone := @outOfRange_of_offsetOf negative (Numeral.decimalValue zh)
          (Numeral.decimalValue zm)
        simp only [dateOf, hs]
        generalize offsetOf negative (Numeral.decimalValue zh) (Numeral.decimalValue zm) = zone
          at hzone
        exact ⟨some <$> zone, _, _, _, _, _, _, _, fun e he => hzone (error_of_map he), rfl⟩

theorem dateOf_ne_dict {cs : List Char} {entries : List (Value × Value)} :
    dateOf cs ≠ .ok (.dict entries) := by
  intro h
  rcases dateOf_eq cs with hdate | ⟨year, month, day, hdate⟩ |
    ⟨zone, year, month, day, hour, minute, second, micro, -, hdate⟩
  · rw [hdate] at h
    cases h
  · rw [hdate] at h
    obtain ⟨d, -, h⟩ := ok_of_bind h
    cases h
  · rw [hdate] at h
    obtain ⟨offset, -, h⟩ := ok_of_bind h
    obtain ⟨d, -, h⟩ := ok_of_bind h
    obtain ⟨_, -, h⟩ := ok_of_bind h
    obtain ⟨_, -, h⟩ := ok_of_bind h
    obtain ⟨_, -, h⟩ := ok_of_bind h
    cases h

theorem bytesOf_ne_dict {cs : List Char} {entries : List (Value × Value)} :
    bytesOf cs ≠ .ok (.dict entries) := by
  intro h
  rw [bytesOf] at h
  split at h
  · obtain ⟨bs, -, hbs⟩ := ok_of_map (ok_of_mapError h)
    cases hbs
  · cases h

theorem reader_ne_dict {r : String × (List Char → Except TextFault Value)}
    (hr : r ∈ scalarReaders) {cs : List Char} {entries : List (Value × Value)} :
    r.2 cs ≠ .ok (.dict entries) := by
  simp only [scalarReaders, List.mem_cons, List.not_mem_nil, or_false] at hr
  rcases hr with rfl | rfl | rfl | rfl | rfl | rfl | rfl
  · simp
  · intro h
    obtain ⟨b, -, hb⟩ := ok_of_map h
    cases hb
  · intro h
    obtain ⟨n, -, hn⟩ := ok_of_map h
    cases hn
  · intro h
    obtain ⟨x, -, hx⟩ := ok_of_map h
    cases hx
  · exact bytesOf_ne_dict
  · exact dateOf_ne_dict
  · simp

namespace Node

theorem scalarValue?_ne_dict {depth : Nat} {n : Node} {entries : List (Value × Value)} :
    n.scalarValue? depth ≠ .ok (some (.dict entries)) := by
  intro h
  rw [scalarValue?] at h
  split at h
  · rename_i t read hfind
    obtain ⟨text, -, h⟩ := ok_of_bind h
    split at h
    · cases h
    · split at h
      · rename_i v hread
        cases h
        exact reader_ne_dict (List.mem_of_find?_eq_some hfind) hread
      all_goals cases h
  · split at h <;> cases h

/-! ### Mappings -/

/-- The entries that a mapping's nodes are put into, one after the other. -/
def madeOf (depth fuel : Nat) (entries : List (Node × Node)) : List (Value × Value) :=
  entries.foldl (fun es e => Value.put (value depth fuel e.1) (value depth fuel e.2) es) []

theorem madeOf_keeps {P : List (Value × Value) → Prop} {depth fuel : Nat} (hnil : P [])
    (hput : ∀ es k n, P es → P (Value.put k (value depth fuel n) es))
    (entries : List (Node × Node)) :
    P (madeOf depth fuel entries) := by
  suffices h : ∀ es, P es →
      P (entries.foldl
        (fun es e => Value.put (value depth fuel e.1) (value depth fuel e.2) es) es) from
    h [] hnil
  induction entries with
  | nil => exact fun es hes => hes
  | cons e rest ih => exact fun es hes => ih _ (hput es _ e.2 hes)

theorem exists_madeOf {depth fuel : Nat} {n : Node} {es : List (Value × Value)}
    (h : n.value depth fuel = .dict es) : ∃ fuel' entries, es = madeOf depth fuel' entries := by
  cases fuel with
  | zero => cases h
  | succ fuel =>
    unfold value at h
    split at h
    · rename_i v hv
      rw [h] at hv
      exact absurd hv scalarValue?_ne_dict
    · dsimp only at h
      split at h
      · cases h
      · split at h
        · cases h
        · split at h
          · cases h
          · exact ⟨fuel, _, (Value.dict.inj h).symm⟩

theorem distinct_of_value {depth fuel : Nat} {n : Node} {es : List (Value × Value)}
    (h : n.value depth fuel = .dict es) : Value.Distinct es := by
  obtain ⟨fuel', entries, rfl⟩ := exists_madeOf h
  exact madeOf_keeps List.Pairwise.nil (fun _ _ _ hes => Value.distinct_put hes) entries

theorem value_of_mem {depth fuel : Nat} {n : Node} {es : List (Value × Value)}
    (h : n.value depth fuel = .dict es) {k v : Value} (hmem : (k, v) ∈ es) :
    ∃ fuel' part, v = value depth fuel' part := by
  obtain ⟨fuel', entries, rfl⟩ := exists_madeOf h
  have hall : ∀ e ∈ madeOf depth fuel' entries, ∃ part, e.2 = value depth fuel' part := by
    refine madeOf_keeps (P := fun es => ∀ e ∈ es, ∃ part, e.2 = value depth fuel' part)
      (by simp) (fun es k n hes e he => ?_) entries
    rcases Value.snd_of_mem_put he with heq | he
    · exact ⟨n, heq⟩
    · exact hes e he
  obtain ⟨part, hpart⟩ := hall _ hmem
  exact ⟨fuel', part, hpart⟩

end Node

theorem value_of_valueOf {cs : List Char} {v : Value} (h : valueOf cs = .ok v) :
    v = .null ∨ ∃ depth fuel, ∃ n : Node, v = n.value depth fuel := by
  rw [valueOf] at h
  split at h
  · cases h
  · obtain ⟨root, -, h⟩ := ok_of_bind h
    split at h
    · cases h
      exact .inl rfl
    · obtain ⟨first, -, h⟩ := ok_of_bind h
      obtain ⟨-, -, h⟩ := ok_of_bind h
      cases h
      exact .inr ⟨_, _, _, rfl⟩

end Yaml

end Docent
