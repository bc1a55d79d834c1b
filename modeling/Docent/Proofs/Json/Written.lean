import Docent.Json.Parse
import Docent.Json.Print
import Mathlib.Data.List.Nodup

/-!
# What JSON writes

Values and the texts that write them, by the grammar of JSON; numbers with a point or an exponent are
left out. Main statements: what is printed of a value writes that value, in whatever margin; what
writes a value holds no control character but white space.
-/

namespace Docent.Json

/-! ### The grammar -/

def Gap (g : List Char) : Prop := ∀ c ∈ g, isGap c = true

/-- A character as it may be written in a string. -/
inductive WritesChar : Char → List Char → Prop
  | plain {c : Char} (hc : 32 ≤ c.toNat) (hquote : c ≠ '"') (hescape : c ≠ '\\') : WritesChar c [c]
  | letter {c e : Char} (h : shortEscape? e = some c) : WritesChar c ['\\', e]
  | unit {c u₁ u₂ u₃ u₄ : Char} (h : unit? u₁ u₂ u₃ u₄ = some c.toNat) :
      WritesChar c ['\\', 'u', u₁, u₂, u₃, u₄]
  | pair {c u₁ u₂ u₃ u₄ v₁ v₂ v₃ v₄ : Char} {high low : Nat} (h : unit? u₁ u₂ u₃ u₄ = some high)
      (h' : unit? v₁ v₂ v₃ v₄ = some low) (hhigh : isHigh high = true) (hlow : isLow low = true)
      (hc : c.toNat = 0x10000 + (high - 0xD800) * 0x400 + (low - 0xDC00)) :
      WritesChar c ['\\', 'u', u₁, u₂, u₃, u₄, '\\', 'u', v₁, v₂, v₃, v₄]

inductive WritesText : List Char → List Char → Prop
  | nil : WritesText [] []
  | cons {c : Char} {cs s ds : List Char} (h : WritesChar c cs) (hrest : WritesText s ds) :
      WritesText (c :: s) (cs ++ ds)

/-- Decimal digits of a number. The first one is no zero, unless it is the only one. -/
structure WritesDigits (n : Nat) (ds : List Char) : Prop where
  digits : ∀ c ∈ ds, c.isDigit = true
  nonempty : ds ≠ []
  lead : ds.head? = some '0' → ds = ['0']
  value : Numeral.decimalValue ds = n

inductive WritesInt : Int → List Char → Prop
  | positive {n : Nat} {ds : List Char} (h : WritesDigits n ds) : WritesInt n ds
  | negative {n : Nat} {ds : List Char} (h : WritesDigits n ds) : WritesInt (-n) ('-' :: ds)

mutual

/-- A value without white space around it. -/
inductive Writes : Value → List Char → Prop
  | null : Writes .null ['n', 'u', 'l', 'l']
  | yes : Writes (.bool true) ['t', 'r', 'u', 'e']
  | no : Writes (.bool false) ['f', 'a', 'l', 's', 'e']
  | int {i : Int} {cs : List Char} (h : WritesInt i cs) : Writes (.int i) cs
  | text {s : String} {cs : List Char} (h : WritesText s.toList cs) :
      Writes (.text s) ('"' :: cs ++ ['"'])
  | emptyList {g : List Char} (hg : Gap g) : Writes (.list []) ('[' :: g ++ [']'])
  | list {vs : List Value} {cs : List Char} (h : WritesItems vs cs) :
      Writes (.list vs) ('[' :: cs ++ [']'])
  | emptyDict {g : List Char} (hg : Gap g) : Writes (.dict []) ('\x7b' :: g ++ ['\x7d'])
  | dict {es : List (Value × Value)} {cs : List Char} (h : WritesMembers es cs)
      (hkeys : (es.map Prod.fst).Nodup) : Writes (.dict es) ('\x7b' :: cs ++ ['\x7d'])

/-- Values, of which there is one at least, between commas. -/
inductive WritesItems : List Value → List Char → Prop
  | one {v : Value} {g cs g' : List Char} (hg : Gap g) (h : Writes v cs) (hg' : Gap g') :
      WritesItems [v] (g ++ cs ++ g')
  | cons {v : Value} {vs : List Value} {g cs g' ds : List Char} (hg : Gap g) (h : Writes v cs)
      (hg' : Gap g') (hrest : WritesItems vs ds) :
      WritesItems (v :: vs) (g ++ cs ++ g' ++ ',' :: ds)

/-- An entry: its key and its value, with a colon between them. -/
inductive WritesMember : Value × Value → List Char → Prop
  | mk {key : String} {v : Value} {g ks g₁ g₂ cs g' : List Char} (hg : Gap g)
      (hkey : WritesText key.toList ks) (hg₁ : Gap g₁) (hg₂ : Gap g₂) (h : Writes v cs)
      (hg' : Gap g') :
      WritesMember (.text key, v) (g ++ '"' :: ks ++ '"' :: g₁ ++ ':' :: g₂ ++ cs ++ g')

/-- Entries, of which there is one at least, between commas. -/
inductive WritesMembers : List (Value × Value) → List Char → Prop
  | one {e : Value × Value} {cs : List Char} (h : WritesMember e cs) : WritesMembers [e] cs
  | cons {e : Value × Value} {es : List (Value × Value)} {cs ds : List Char}
      (h : WritesMember e cs) (hrest : WritesMembers es ds) :
      WritesMembers (e :: es) (cs ++ ',' :: ds)

end

/-! ### Strings that are printed -/

theorem hexDigit?_hexDigit {n : Nat} (h : n < 16) : Text.hexDigit? (Text.hexDigit n) = some n := by
  have hall : ∀ n : Fin 16, Text.hexDigit? (Text.hexDigit n) = some n.val := by decide
  exact hall ⟨n, h⟩

theorem unitEscape_eq {n : Nat} (h : n < 0x10000) :
    ∃ u₁ u₂ u₃ u₄, unitEscape n = ['\\', 'u', u₁, u₂, u₃, u₄] ∧ unit? u₁ u₂ u₃ u₄ = some n := by
  refine ⟨_, _, _, _, rfl, ?_⟩
  have hdigit (m : Nat) : Text.hexDigit? (Text.hexDigit (m % 16)) = some (m % 16) :=
    hexDigit?_hexDigit (Nat.mod_lt m (by decide))
  simp only [unit?, hdigit, Option.some.injEq]
  omega

theorem writesChar_pair {c : Char} (h : 0x10000 ≤ c.toNat) :
    WritesChar c (unitEscape (0xD800 + (c.toNat - 0x10000) / 0x400) ++
      unitEscape (0xDC00 + (c.toNat - 0x10000) % 0x400)) := by
  have hmost : c.toNat < 0xD800 ∨ 0xDFFF < c.toNat ∧ c.toNat < 0x110000 := c.valid
  obtain ⟨u₁, u₂, u₃, u₄, hfirst, hhigh⟩ :=
    unitEscape_eq (n := 0xD800 + (c.toNat - 0x10000) / 0x400) (by omega)
  obtain ⟨v₁, v₂, v₃, v₄, hsecond, hlow⟩ :=
    unitEscape_eq (n := 0xDC00 + (c.toNat - 0x10000) % 0x400) (by omega)
  rw [hfirst, hsecond]
  refine .pair hhigh hlow ?_ ?_ ?_
  · simp only [isHigh, Bool.and_eq_true, decide_eq_true_eq]
    omega
  · simp only [isLow, Bool.and_eq_true, decide_eq_true_eq]
    omega
  · omega

theorem writesChar_printChar (c : Char) : WritesChar c (printChar c) := by
  rw [printChar]
  split
  · rename_i h
    exact .letter (by rw [h]; rfl)
  split
  · rename_i h
    exact .letter (by rw [h]; rfl)
  split
  · rename_i h
    exact .letter (by rw [h]; rfl)
  split
  · rename_i h
    exact .letter (by rw [h]; rfl)
  split
  · rename_i h
    exact .letter (by rw [h]; rfl)
  split
  · rename_i h
    exact .letter (by rw [← Char.ofNat_toNat c, h]; rfl)
  split
  · rename_i h
    exact .letter (by rw [← Char.ofNat_toNat c, h]; rfl)
  split
  · -- neither a quote nor a backslash nor a control character
    rename_i hquote hescape _ _ _ _ _ h
    exact .plain h.1 hquote hescape
  split
  · rename_i h
    obtain ⟨u₁, u₂, u₃, u₄, hescape, hunit⟩ := unitEscape_eq h
    rw [hescape]
    exact .unit hunit
  · rename_i h
    exact writesChar_pair (by omega)

theorem writesText_flatMap_printChar (s : List Char) : WritesText s (s.flatMap printChar) := by
  induction s with
  | nil => exact .nil
  | cons c s ih => exact .cons (writesChar_printChar c) ih

example : ['"', '\x7f', '😀'].flatMap printChar = "\\\"\\u007f\\ud83d\\ude00".toList := by decide

/-! ### Numbers that are printed -/

theorem decimalValue_eq (ds : List Char) : Numeral.decimalValue ds = Nat.ofDigitChars 10 ds 0 := by
  rw [Numeral.decimalValue, Nat.ofDigitChars]
  congr 1
  funext n c
  rw [Nat.mul_comm]
  rfl

theorem head?_toDigits_ne_zero {n : Nat} (h : n ≠ 0) : (Nat.toDigits 10 n).head? ≠ some '0' := by
  induction n using Nat.strongRecOn with
  | ind n ih =>
    rw [Nat.toDigits_eq_if (by decide)]
    split
    · rename_i hsmall
      have hall : ∀ n : Fin 10, n.val ≠ 0 → [n.val.digitChar].head? ≠ some '0' := by decide
      exact hall ⟨n, hsmall⟩ h
    · rename_i hlarge
      rw [List.head?_append_of_ne_nil _ Nat.toDigits_ne_nil]
      exact ih (n / 10) (by omega) (by omega)

theorem writesDigits_toDigits (n : Nat) : WritesDigits n (Nat.toDigits 10 n) where
  digits := fun _ hc => Nat.isDigit_of_mem_toDigits (by decide) (by decide) hc
  nonempty := Nat.toDigits_ne_nil
  lead := by
    intro hzero
    by_cases h : n = 0
    · rw [h, Nat.toDigits_zero]
    · exact absurd hzero (head?_toDigits_ne_zero h)
  value := by rw [decimalValue_eq, Nat.ofDigitChars_toDigits (by decide) (by decide)]

theorem writesInt_printInt (i : Int) : WritesInt i (printInt i) := by
  cases i with
  | ofNat n => exact .positive (writesDigits_toDigits n)
  | negSucc n => exact .negative (writesDigits_toDigits (n + 1))

/-! ### Values that are printed -/

/-- Whatever the margin, what is printed of a value writes it. -/
def Printed (v : Value) : Prop := ∀ m, Writes v (printIn m v)

theorem printed_null : Printed .null := fun _ => .null

theorem printed_int (i : Int) : Printed (.int i) := fun _ => .int (writesInt_printInt i)

theorem printed_text (s : String) : Printed (.text s) :=
  fun _ => .text (writesText_flatMap_printChar s.toList)

theorem gap_nil : Gap [] := fun _ h => nomatch h

theorem gap_break (m : Margin) : Gap m.break := by
  cases m with
  | none => exact gap_nil
  | some n =>
    intro c hc
    rcases List.mem_cons.1 hc with rfl | hc
    · rfl
    · rw [List.eq_of_mem_replicate hc]
      rfl

theorem writesItems_printed {v : Value} {vs : List Value} (h : ∀ u ∈ v :: vs, Printed u)
    (m : Margin) {g g' : List Char} (hg : Gap g) (hg' : Gap g') :
    WritesItems (v :: vs) (g ++ printIn m v ++ (printItems m vs ++ g')) := by
  induction vs generalizing v g with
  | nil => exact .one hg (h v List.mem_cons_self m) hg'
  | cons u us ih =>
    have hrest := ih (fun x hx => h x (List.mem_cons_of_mem v hx)) (gap_break m)
    have hfirst := WritesItems.cons hg (h v List.mem_cons_self m) gap_nil hrest
    simpa only [printItems, List.append_nil, List.append_assoc, List.cons_append] using hfirst

theorem printed_list {vs : List Value} (h : ∀ v ∈ vs, Printed v) : Printed (.list vs) := by
  intro m
  cases vs with
  | nil => exact .emptyList gap_nil
  | cons v vs =>
    have hitems := writesItems_printed h m.deeper (gap_break m.deeper) (gap_break m)
    simpa only [printIn, List.append_assoc, List.cons_append] using Writes.list hitems

theorem writesMember_printed (key : String) {v : Value} (h : Printed v) (m : Margin)
    {g g' : List Char} (hg : Gap g) (hg' : Gap g') :
    WritesMember (.text key, v) (g ++ printKey (.text key) ++ m.colon ++ printIn m v ++ g') := by
  have hcolon : ∃ g₂, Gap g₂ ∧ m.colon = ':' :: g₂ := by
    cases m with
    | none => exact ⟨[], gap_nil, rfl⟩
    | some n => exact ⟨[' '], by simp [Gap, isGap], rfl⟩
  obtain ⟨g₂, hg₂, hcolon⟩ := hcolon
  have hmember := WritesMember.mk hg (writesText_flatMap_printChar key.toList) gap_nil hg₂ (h m) hg'
  rw [hcolon, printKey, printText]
  simpa only [List.append_assoc, List.cons_append, List.nil_append] using hmember

theorem writesMembers_printed (key : String) {v : Value} {es : List (Value × Value)}
    (hkeys : ∀ e ∈ es, ∃ k, e.1 = .text k) (hv : Printed v) (h : ∀ e ∈ es, Printed e.2)
    (m : Margin) {g g' : List Char} (hg : Gap g) (hg' : Gap g') :
    WritesMembers ((.text key, v) :: es)
      (g ++ printKey (.text key) ++ m.colon ++ printIn m v ++ (printEntries m es ++ g')) := by
  induction es generalizing key v g with
  | nil => exact .one (writesMember_printed key hv m hg hg')
  | cons e es ih =>
    obtain ⟨k, u⟩ := e
    obtain ⟨key', rfl⟩ : ∃ key', k = .text key' := hkeys _ List.mem_cons_self
    have hrest := ih key' (fun x hx => hkeys x (List.mem_cons_of_mem _ hx))
      (h _ List.mem_cons_self) (fun x hx => h x (List.mem_cons_of_mem _ hx)) (gap_break m)
    have hfirst := WritesMembers.cons (writesMember_printed key hv m hg gap_nil) hrest
    simpa only [printEntries, List.append_nil, List.append_assoc, List.cons_append] using hfirst

theorem colon_deeper (m : Margin) : m.deeper.colon = m.colon := by
  cases m <;> rfl

theorem printed_dict {es : List (Value × Value)} (hkeys : ∀ e ∈ es, ∃ k, e.1 = .text k)
    (hnodup : (es.map Prod.fst).Nodup) (h : ∀ e ∈ es, Printed e.2) : Printed (.dict es) := by
  intro m
  cases es with
  | nil => exact .emptyDict gap_nil
  | cons e es =>
    obtain ⟨k, v⟩ := e
    obtain ⟨key, rfl⟩ : ∃ key, k = .text key := hkeys _ List.mem_cons_self
    have hmembers := writesMembers_printed key
      (fun x hx => hkeys x (List.mem_cons_of_mem _ hx)) (h _ List.mem_cons_self)
      (fun x hx => h x (List.mem_cons_of_mem _ hx)) m.deeper (gap_break m.deeper) (gap_break m)
    rw [colon_deeper] at hmembers
    simpa only [printIn, List.append_assoc, List.cons_append] using Writes.dict hmembers hnodup

/-! ### Characters of written texts -/

def Visible (cs : List Char) : Prop := ∀ c ∈ cs, isGap c = true ∨ 32 ≤ c.toNat

theorem Gap.visible {g : List Char} (hg : Gap g) : Visible g := fun c hc => .inl (hg c hc)

theorem Visible.append {cs ds : List Char} (h : Visible cs) (h' : Visible ds) :
    Visible (cs ++ ds) := List.forall_mem_append.2 ⟨h, h'⟩

theorem Visible.cons {c : Char} {cs : List Char} (hc : 32 ≤ c.toNat) (h : Visible cs) :
    Visible (c :: cs) := List.forall_mem_cons.2 ⟨.inr hc, h⟩

theorem visible_nil : Visible [] := fun _ h => nomatch h

theorem visible_of_all {cs : List Char} (h : cs.all (fun c => Nat.ble 32 c.toNat) = true) :
    Visible cs := fun c hc => .inr (Nat.le_of_ble_eq_true (List.all_eq_true.1 h c hc))

theorem toNat_of_hexDigit? {c : Char} {n : Nat} (h : Text.hexDigit? c = some n) :
    32 ≤ c.toNat := by
  have hbound {d : Char} (hd : 32 ≤ d.toNat) (hle : d ≤ c) : 32 ≤ c.toNat := Nat.le_trans hd hle
  rw [Text.hexDigit?] at h
  split at h
  · rename_i hc
    exact hbound (by decide) hc.1
  · split at h
    · rename_i hc
      exact hbound (by decide) hc.1
    · split at h
      · rename_i hc
        exact hbound (by decide) hc.1
      · cases h

theorem toNat_of_shortEscape? {c e : Char} (h : shortEscape? e = some c) : 32 ≤ e.toNat := by
  by_contra hsmall
  have hne {d : Char} (hd : 32 ≤ d.toNat) : e ≠ d := by
    rintro rfl
    exact hsmall hd
  have hnone : shortEscape? e = none := by
    rw [shortEscape?]
    simp only [hne (d := '"') (by decide), hne (d := '\\') (by decide), hne (d := '/') (by decide),
      hne (d := 'n') (by decide), hne (d := 'r') (by decide), hne (d := 't') (by decide),
      hne (d := 'b') (by decide), hne (d := 'f') (by decide), or_self, if_false]
  rw [hnone] at h
  cases h

theorem visible_of_unit? {u₁ u₂ u₃ u₄ : Char} {n : Nat} (h : unit? u₁ u₂ u₃ u₄ = some n) {cs : List Char}
    (hcs : Visible cs) :
    Visible ('\\' :: 'u' :: u₁ :: u₂ :: u₃ :: u₄ :: cs) := by
  rw [unit?] at h
  split at h
  · rename_i h₁ h₂ h₃ h₄
    have hdigits := ((((hcs.cons (toNat_of_hexDigit? h₄)).cons (toNat_of_hexDigit? h₃)).cons
      (toNat_of_hexDigit? h₂)).cons (toNat_of_hexDigit? h₁))
    exact (hdigits.cons (by decide)).cons (by decide)
  · cases h

theorem WritesChar.visible {c : Char} {cs : List Char} (h : WritesChar c cs) : Visible cs := by
  cases h with
  | plain hc _ _ => exact visible_nil.cons hc
  | letter h => exact (visible_nil.cons (toNat_of_shortEscape? h)).cons (by decide)
  | unit h => exact visible_of_unit? h visible_nil
  | pair h h' _ _ _ => exact visible_of_unit? h (visible_of_unit? h' visible_nil)

theorem WritesText.visible {s cs : List Char} (h : WritesText s cs) : Visible cs := by
  induction h with
  | nil => exact visible_nil
  | cons h _ ih => exact h.visible.append ih

theorem WritesDigits.visible {n : Nat} {ds : List Char} (h : WritesDigits n ds) : Visible ds := by
  intro c hc
  have hdigit := h.digits c hc
  rw [Char.isDigit, Bool.and_eq_true, decide_eq_true_eq] at hdigit
  have hlow : 32 ≤ '0'.toNat := by decide
  exact .inr (Nat.le_trans hlow hdigit.1)

theorem WritesInt.visible {i : Int} {cs : List Char} (h : WritesInt i cs) : Visible cs := by
  cases h with
  | positive h => exact h.visible
  | negative h => exact h.visible.cons (by decide)

mutual

theorem Writes.visible {v : Value} {cs : List Char} (h : Writes v cs) : Visible cs := by
  cases h with
  | null | yes | no => exact visible_of_all rfl
  | int h => exact h.visible
  | text h => exact (h.visible.append (visible_nil.cons (by decide))).cons (by decide)
  | emptyList hg | emptyDict hg =>
    exact (hg.visible.append (visible_nil.cons (by decide))).cons (by decide)
  | list h => exact (h.visible.append (visible_nil.cons (by decide))).cons (by decide)
  | dict h _ => exact (h.visible.append (visible_nil.cons (by decide))).cons (by decide)

theorem WritesItems.visible {vs : List Value} {cs : List Char} (h : WritesItems vs cs) :
    Visible cs := by
  cases h with
  | one hg h hg' => exact (hg.visible.append h.visible).append hg'.visible
  | cons hg h hg' hrest =>
    exact ((hg.visible.append h.visible).append hg'.visible).append (hrest.visible.cons (by decide))

theorem WritesMember.visible {e : Value × Value} {cs : List Char} (h : WritesMember e cs) :
    Visible cs := by
  cases h with
  | mk hg hkey hg₁ hg₂ h hg' =>
    have hquoted := hg.visible.append (hkey.visible.cons (c := '"') (by decide))
    have hcolon := hquoted.append (hg₁.visible.cons (c := '"') (by decide))
    have hvalue := (hcolon.append (hg₂.visible.cons (c := ':') (by decide))).append h.visible
    exact hvalue.append hg'.visible

theorem WritesMembers.visible {es : List (Value × Value)} {cs : List Char}
    (h : WritesMembers es cs) : Visible cs := by
  cases h with
  | one h => exact h.visible
  | cons h hrest => exact h.visible.append (hrest.visible.cons (by decide))

end

end Docent.Json
