import Docent.Proofs.Verbatim

/-!
# Names and lines

A name is cut out of its source as it is written. Main statement: no line ends in the name of a class,
nor in that of a method, unless a script has the name as a string or in brackets.
-/

namespace Docent

open Docent.Tree (Address Site)

/-! ### Words in normal form -/

namespace Text

open NormalTable

/-- None of the numbers is that of a control character. -/
def Above (ns : List Nat) : Prop := ∀ n ∈ ns, 0x20 ≤ n

theorem above_append {ms ns : List Nat} : Above (ms ++ ns) ↔ Above ms ∧ Above ns :=
  List.forall_mem_append

theorem above_cons {n : Nat} {ns : List Nat} : Above (n :: ns) ↔ 0x20 ≤ n ∧ Above ns :=
  List.forall_mem_cons

theorem above_shifts : ∀ row ∈ shifts.toList, ∀ n ∈ row, 0x20 ≤ n := by decide +kernel

theorem above_expansions : ∀ row ∈ expansions.toList, ∀ n ∈ row, 0x20 ≤ n := by decide +kernel

theorem above_compositions : ∀ row ∈ compositions.toList, ∀ n ∈ row, 0x20 ≤ n := by decide +kernel

theorem above_rowBelow {table : Array (List Nat)} (h : ∀ row ∈ table.toList, Above row)
    (n fuel lo hi : Nat) : Above (rowBelow table n fuel lo hi) := by
  induction fuel generalizing lo hi with
  | zero => exact List.forall_mem_nil _
  | succ fuel ih =>
    rw [rowBelow]
    split
    · cases hrow : table[lo]? with
      | none => exact List.forall_mem_nil _
      | some row =>
        rw [← Array.getElem?_toList] at hrow
        exact h row (List.mem_of_getElem? hrow)
    · dsimp only
      split
      · exact ih _ _
      · exact ih _ _

theorem above_rowFor {table : Array (List Nat)} (h : ∀ row ∈ table.toList, Above row) (n : Nat) :
    Above (rowFor table n) :=
  above_rowBelow h n _ _ _

theorem above_expand {n : Nat} (hn : 0x20 ≤ n) : Above (decompose.expand n) := by
  have hrow := above_rowFor above_expansions n
  have hself : Above [n] := List.forall_mem_singleton.2 hn
  rw [decompose.expand]
  split
  · rename_i heq
    rw [heq] at hrow
    split
    · exact (above_cons.1 hrow).2
    · exact hself
  · exact hself

theorem above_decompose {n : Nat} (hn : 0x20 ≤ n) : Above (decompose n) := by
  rw [decompose]
  split
  · exact List.forall_mem_singleton.2 hn
  · split
    · dsimp only
      refine above_cons.2 ⟨by omega, above_cons.2 ⟨by omega, ?_⟩⟩
      split
      · exact List.forall_mem_nil _
      · exact List.forall_mem_singleton.2 (by omega)
    · have hrow := above_rowFor above_shifts n
      split
      · rename_i heq
        rw [heq] at hrow
        split
        · have himage := (above_cons.1 (above_cons.1 hrow).2).2
          have hle := List.forall_mem_singleton.1 himage
          exact List.forall_mem_singleton.2 (by omega)
        · exact above_expand hn
      · exact above_expand hn

theorem above_placeMark {n : Nat} {ns : List Nat} (hn : 0x20 ≤ n) (hns : Above ns) :
    Above (placeMark n ns) := by
  induction ns with
  | nil => exact List.forall_mem_singleton.2 hn
  | cons m ms ih =>
    obtain ⟨hm, hms⟩ := above_cons.1 hns
    rw [placeMark]
    split
    · exact above_cons.2 ⟨hm, ih hms⟩
    · exact above_cons.2 ⟨hn, hns⟩

theorem above_orderMarks {ns : List Nat} (h : Above ns) : Above (orderMarks ns) := by
  have hplaced (done : List Nat) (hdone : Above done) :
      Above (ns.foldl (fun done n => placeMark n done) done) := by
    induction ns generalizing done with
    | nil => exact hdone
    | cons n ns ih =>
      obtain ⟨hn, hns⟩ := above_cons.1 h
      exact ih hns _ (above_placeMark hn hdone)
  intro n hn
  rw [orderMarks, List.mem_reverse] at hn
  exact hplaced [] (List.forall_mem_nil _) n hn

theorem above_composite? {a b c : Nat} (h : composite? a b = some c) : 0x20 ≤ c := by
  rw [composite?] at h
  split at h
  · have hc := Option.some.inj h
    omega
  · split at h
    · have hc := Option.some.inj h
      omega
    · obtain ⟨row, hrow, hc⟩ := Option.bind_eq_some_iff.1 h
      have hmem := Array.mem_of_find?_eq_some hrow
      exact above_compositions row (Array.mem_toList_iff.2 hmem) c (List.mem_of_getElem? hc)

theorem above_composeMarks {starter blocked : Nat} {kept ns : List Nat} (hstarter : 0x20 ≤ starter)
    (hkept : Above kept) (hns : Above ns) : Above (composeMarks starter kept blocked ns) := by
  have hreverse {ms : List Nat} (h : Above ms) : Above ms.reverse :=
    fun m hm => h m (List.mem_reverse.1 hm)
  induction ns generalizing starter kept blocked with
  | nil => exact above_cons.2 ⟨hstarter, hreverse hkept⟩
  | cons n ns ih =>
    obtain ⟨hn, hrest⟩ := above_cons.1 hns
    rw [composeMarks]
    split
    · rename_i c hc
      have habove : 0x20 ≤ c := by
        split at hc
        · exact above_composite? hc
        · cases hc
      exact ih habove hkept hrest
    · split
      · refine above_append.2 ⟨above_cons.2 ⟨hstarter, hreverse hkept⟩, ?_⟩
        exact ih hn (List.forall_mem_nil _) hrest
      · exact ih hstarter (above_cons.2 ⟨hn, hkept⟩) hrest

theorem above_compose {ns : List Nat} (h : Above ns) : Above (compose ns) := by
  induction ns with
  | nil => exact h
  | cons n ns ih =>
    obtain ⟨hn, hrest⟩ := above_cons.1 h
    rw [compose]
    split
    · exact above_composeMarks hn (List.forall_mem_nil _) hrest
    · exact above_cons.2 ⟨hn, ih hrest⟩

/-- A number that is none of a control character, or none of a character at all, ends no line. -/
theorem endsLine_ofNat {n : Nat} (hn : 0x20 ≤ n) : endsLine (Char.ofNat n) = false := by
  refine Bool.eq_false_iff.2 fun hend => ?_
  have hcode : (Char.ofNat n).toNat = 10 ∨ (Char.ofNat n).toNat = 13 :=
    (eq_of_endsLine hend).imp (congrArg Char.toNat) (congrArg Char.toNat)
  by_cases hvalid : n.isValidChar
  · have hself : (Char.ofNat n).toNat = n := by
      rw [Char.ofNat, dif_pos hvalid]
      rfl
    omega
  · have hzero : (Char.ofNat n).toNat = 0 := by
      rw [Char.ofNat, dif_neg hvalid]
      rfl
    omega

theorem oneLine_normalForm {cs : List Char} (h : ∀ c ∈ cs, 0x20 ≤ c.toNat) :
    OneLine (normalForm cs) := by
  have hcodes : Above (cs.flatMap fun c => decompose c.toNat) := by
    intro n hn
    obtain ⟨c, hc, hmem⟩ := List.mem_flatMap.1 hn
    exact above_decompose (h c hc) n hmem
  intro c hc
  rw [normalForm] at hc
  split at hc
  · have hend := endsLine_ofNat (h c hc)
    rwa [Char.ofNat_toNat] at hend
  · obtain ⟨n, hn, rfl⟩ := List.mem_map.1 hc
    exact endsLine_ofNat (above_compose (above_orderMarks hcodes) n hn)

end Text

/-! ### Names of each grammar -/

theorem Page.oneLine_of_isWord {cs : List Char} (h : IsWord cs) : OneLine cs := by
  have hword : Shape.Linear wordShape := by
    have hstart : Shape.Linear (.one isWordStart) := Shape.linear_one rfl rfl
    have hpart : Shape.Linear wordPart := Shape.linear_one rfl rfl
    unfold wordShape
    infer_instance
  exact Shape.oneLine_of_takes h.1

theorem Indented.toNat_of_isWordChar {c : Char} (h : isWordChar c = true) : 0x20 ≤ c.toNat := by
  by_contra hlow
  have hmem : c.toNat ∈ List.range 0x20 := List.mem_range.2 (Nat.not_le.1 hlow)
  have hnone : ∀ n ∈ List.range 0x20, isWordChar (Char.ofNat n) = false := by decide
  have hfalse := hnone _ hmem
  rw [Char.ofNat_toNat, h] at hfalse
  cases hfalse

theorem Script.exists_className? (d : Dialect) {k : Kind}
    (h : k = .classDecl ∨ k = .abstractClassDecl) :
    ∃ shape, className? d k = some shape ∧ Shape.Linear shape := by
  rcases h with rfl | rfl
  · exact ⟨_, rfl, linear_wordWhere _⟩
  · exact ⟨_, rfl, linear_wordShape⟩

/-- A name that a script may have on several lines: a string, or what stands in brackets. -/
def IsOpenName (name : String) : Prop :=
  ∃ c r, name.toList = c :: r ∧ (c = '[' ∨ c = '"' ∨ c = '\'')

namespace Grammar

variable {g : Grammar} {cs : List Char} {t : Tree} {a : Address} {s : Site} {name : String}

theorem mem_preorder_of_name (hs : (Site.ofRoot t).at? a = some s) {u : Tree}
    (hu : s.tree.part? .name = some u) : u ∈ t.preorder ∧ u.kind = .name :=
  ⟨Tree.mem_preorder_trans _ (Site.tree_mem_preorder hs) (Site.mem_of_part? hu),
    by simpa using List.find?_some hu⟩

/-- No line ends in a name of a page or of an indented source, whatever it names. -/
theorem oneLine_of_name (hg : g = page ∨ g = indented) (h : g.parse cs = .ok t)
    (hs : (Site.ofRoot t).at? a = some s) (hdecl : g.Declares s ∨ s.tree.kind = .method)
    (hname : g.convention.nameOf? s = some name) : OneLine name.toList := by
  obtain ⟨u, hu, rfl⟩ := Option.map_eq_some_iff.1 hname
  obtain ⟨hmem, hkind⟩ := mem_preorder_of_name hs hu
  rw [String.toList_ofList]
  rcases hg with rfl | rfl
  · have hkind : s.tree.kind = .classDecl ∨ s.tree.kind = .method := by
      refine hdecl.imp_left fun hclass => hclass.resolve_right fun h => ?_
      cases h.1
    obtain ⟨cs', hcalled, hword⟩ :=
      (Page.isBuilt_of_parse (ok_of_mapError h) _ (Site.tree_mem_preorder hs)).called hkind
    obtain rfl := Option.some.inj (hcalled.symm.trans hu)
    exact Page.oneLine_of_isWord hword
  · have hword := Indented.isCalled_of_parse (ok_of_mapError h) u hmem hkind
    exact Text.oneLine_normalForm fun c hc => Indented.toNat_of_isWordChar (hword c hc)

/-- No line ends in the name of a class of a script, and in another name only if it is a string or
in brackets. -/
theorem oneLine_of_script_name {d : Script.Dialect} (h : (script d).parse cs = .ok t)
    (hs : (Site.ofRoot t).at? a = some s) (hname : (script d).convention.nameOf? s = some name) :
    (OneLine name.toList ∨ IsOpenName name) ∧
      ((script d).Declares s → OneLine name.toList) := by
  obtain ⟨u, hu, rfl⟩ := Option.map_eq_some_iff.1 hname
  obtain ⟨hmem, hkind⟩ := mem_preorder_of_name hs hu
  have hbuilt := Script.isBuilt_of_parse (ok_of_mapError h)
  rw [IsOpenName, String.toList_ofList]
  refine ⟨((hbuilt u hmem).name hkind).text, fun hdecl => ?_⟩
  obtain ⟨shape, hshape, hlinear⟩ := Script.exists_className? d (hdecl.imp_right And.right)
  obtain ⟨cs', hcalled, htakes⟩ := (hbuilt _ (Site.tree_mem_preorder hs)).called shape hshape
  obtain rfl := Option.some.inj (hcalled.symm.trans hu)
  exact Shape.oneLine_of_takes htakes

theorem oneLine_of_class (h : g.parse cs = .ok t) (hs : (Site.ofRoot t).at? a = some s)
    (hdecl : g.Declares s) (hname : g.convention.nameOf? s = some name) :
    OneLine name.toList := by
  cases g with
  | script d => exact (oneLine_of_script_name h hs hname).2 hdecl
  | page => exact oneLine_of_name (.inl rfl) h hs (.inl hdecl) hname
  | indented => exact oneLine_of_name (.inr rfl) h hs (.inl hdecl) hname

theorem classOutline_at? (g : Grammar) {t : Tree} {o : ClassOutline}
    (ho : o ∈ g.convention.classOutlines t) :
    ∃ a s e, (Site.ofRoot t).at? a = some s ∧ g.Declares s ∧
      g.convention.classOutline? e s = some o := by
  obtain ⟨i, hi, rfl⟩ := List.mem_iff_getElem.1 ho
  have hall := classOutlines_eq g t
  obtain ⟨⟨s, hs, hdecl, -⟩, s', e, hs', hout⟩ := hall.get (hall.length_eq ▸ hi) hi
  obtain rfl := Option.some.inj (hs.symm.trans hs')
  exact ⟨_, s, e, hs, hdecl, hout⟩

end Grammar

def Language.isScript : Language → Bool
  | .javascript | .typescript => true
  | _ => false

/-- No line ends in the names of a class record and of its methods; only a method of a script may
have a name that is a string or in brackets. -/
structure ClassRecord.Named (c : ClassRecord) : Prop where
  name : OneLine c.name.display.toList
  methods : ∀ m ∈ c.methods, OneLine m.name.display.toList ∨
    (c.language.isScript = true ∧ IsOpenName m.name.display)

theorem named_of_extractSource {g : Grammar} {path : String} {cs : List Char}
    {classes : List ClassRecord} (h : extractSource g path cs = .ok classes) :
    ∀ c ∈ classes, c.Named := by
  obtain ⟨t, ht, rfl⟩ := ok_of_map h
  intro c hc
  obtain ⟨o, ho, rfl⟩ := List.mem_map.1 hc
  refine ⟨?_, fun m hm => ?_⟩
  · obtain ⟨a, s, e, hs, hdecl, hout⟩ := g.classOutline_at? ho
    obtain ⟨name, hname, rfl⟩ := Option.map_eq_some_iff.1 hout
    exact Grammar.oneLine_of_class ht hs hdecl hname
  · obtain ⟨mo, hmo, rfl⟩ := List.mem_map.1 hm
    obtain ⟨a, s, hs, hkind, -, hout⟩ := g.methodOutline_at? ho hmo
    obtain ⟨name, hname, rfl⟩ := Option.map_eq_some_iff.1 hout
    cases g with
    | page => exact .inl (Grammar.oneLine_of_name (.inl rfl) ht hs (.inr hkind) hname)
    | indented => exact .inl (Grammar.oneLine_of_name (.inr rfl) ht hs (.inr hkind) hname)
    | script d =>
      have hscript : (Grammar.script d).language.isScript = true := by
        obtain ⟨types, markup⟩ := d
        cases types <;> rfl
      exact (Grammar.oneLine_of_script_name ht hs hname).1.imp_right fun hopen => ⟨hscript, hopen⟩

end Docent
