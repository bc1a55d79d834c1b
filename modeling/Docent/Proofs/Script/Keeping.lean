import Docent.Proofs.Scan.Reading
import Docent.Proofs.Script.Built
import Docent.Proofs.Script.Gaps

/-!
# Readers that keep decorators in their place

A reader of a script keeps a level if what it puts behind a forest of that level is of the level
again. It may rely on what is remembered, so it has to leave true what is remembered. A reader keeps
a level when the readers that it is built from do, and instances find that out.
-/

namespace Docent.Script

open Scan Scan.Reader Scan.Law
open Docent.Tree (Filled Led)

variable {d : Dialect} {ℓ : Level} {a : Forest} {p q : Part}

/-! ### What is remembered -/

/-- The rules that give constructs and what separates them. -/
def Rule.isWhole : Rule → Bool
  | .statement | .block _ => true
  | _ => false

def Tokenless (f : Forest) : Prop := ∀ t ∈ f, t.kind ≠ .token

/-- What holds of a forest that a rule gave: declarations are statements, decorators stand in
declarations, statements and blocks are constructs, and a block is not empty. -/
structure IsResult (d : Dialect) (rule : Rule) (f : Forest) : Prop where
  built : AllBuilt d f
  plain : rule ≠ .statement → Level.plain.Holds d f
  tokenless : rule.isWhole = true → Tokenless f
  filled : ∀ operand, rule = .block operand → Filled f

instance bounded_wordWhere (p : List Char → Bool) : Shape.Bounded (wordWhere p) := by
  refine ⟨fun {cs n} h => ?_⟩
  rw [wordWhere] at h
  split at h
  · cases h
  · rename_i k hk
    split at h <;> cases h
    exact bounded_wordShape.le hk

theorem isGapLeaf_gapsOver (bound cs : List Char) : ∀ t ∈ (gapsOver bound cs).1, IsGapLeaf t := by
  induction bound generalizing cs with
  | nil => exact List.forall_mem_nil _
  | cons c bound ih =>
    rw [gapsOver]
    cases hleaf : gapLeaf? cs with
    | none => exact List.forall_mem_nil _
    | some leaf =>
      obtain ⟨t, rest⟩ := leaf
      have ht : IsGapLeaf t := by
        unfold gapLeaf? at hleaf
        split at hleaf
        · cases hleaf
          trivial
        · obtain ⟨⟨lexeme, rest'⟩, hsplit, hcut⟩ := Option.map_eq_some_iff.1 hleaf
          cases hcut
          exact Shape.takes_of_split? hsplit
      exact List.forall_mem_cons.2 ⟨ht, ih rest⟩

theorem isGapLeaf_gaps (cs : List Char) : ∀ t ∈ (gaps cs).1, IsGapLeaf t := isGapLeaf_gapsOver cs cs

theorem IsGapLeaf.isLoose {t : Tree} (h : IsGapLeaf t) : t.isLoose = true := by
  match t with
  | .leaf .blank cs => rfl
  | .leaf .comment cs => rfl

def law (d : Dialect) : Law Rule where
  gaps
  Result := IsResult d
  loose cs t ht := (isGapLeaf_gaps cs t ht).isLoose
  text := text_gaps

/-- What readers of scripts leave behind holds, and what they read has a property. -/
abbrev Reads (d : Dialect) (r : Part) (Q : Forest → Prop) : Prop := (law d).Reads r Q

theorem holds_gap {raw rest : List Char} {f : Forest} (h : gaps raw = (f, rest)) : ℓ.Holds d f := by
  have hf := isGapLeaf_gaps raw
  rw [h] at hf
  exact Level.holds_gap hf

theorem reads_leftOut (e : StatementEnd) : Reads d (leftOut d e) (ℓ.Holds d) := by
  intro p m hp hm
  change (law d).realm.LeadsTo _ (leftOut d e gaps p m)
  rw [leftOut]
  split
  · exact hm
  · exact ⟨hp, hm, ℓ.holds_nil d⟩
  · exact ⟨(law d).isCut_of _ _, hm, Level.holds_gap (isGapLeaf_gaps _)⟩

/-! ### Comments before a semicolon that is left out -/

theorem gaps_of_insertedOver {e : StatementEnd} {bound cs : List Char} {n : Nat}
    (h : insertedOver d e bound cs = some n) : n ≤ cs.length ∧ (gaps (cs.take n)).2 = [] := by
  induction bound generalizing cs n with
  | nil => cases h
  | cons c bound ih =>
    rw [insertedOver] at h
    split at h
    · obtain rfl := Option.some.inj h
      exact ⟨Nat.zero_le _, rfl⟩
    dsimp only at h
    -- blanks and one comment come before what is counted after them
    obtain ⟨blank, rest, hblank, rfl, hrest⟩ :
        ∃ blank rest, (∀ c ∈ blank, isSpace c = true) ∧ cs = blank ++ rest ∧
          cs.takeWhile isSpace = blank :=
      ⟨cs.takeWhile isSpace, cs.dropWhile isSpace, List.all_eq_true.1 List.all_takeWhile,
        List.takeWhile_append_dropWhile.symm, rfl⟩
    rw [hrest, List.drop_left] at h
    cases hcomment : comment rest with
    | none =>
      rw [hcomment] at h
      cases h
    | some k =>
      rw [hcomment] at h
      obtain ⟨m, hm, rfl⟩ := Option.map_eq_some_iff.1 h
      obtain ⟨hle, hgaps⟩ := ih hm
      have hk := bounded_comment.le hcomment
      obtain ⟨x, y, rfl, rfl⟩ : ∃ x y, rest = x ++ y ∧ k = x.length :=
        ⟨rest.take k, rest.drop k, (List.take_append_drop k rest).symm, by simp [hk]⟩
      rw [List.drop_left] at hle hgaps
      have htake : (blank ++ (x ++ y)).take (blank.length + x.length + m) =
          blank ++ (x ++ y.take m) := by
        rw [Nat.add_assoc, List.take_length_add_append, List.take_length_add_append]
      refine ⟨by simp only [List.length_append]; omega, ?_⟩
      rw [htake]
      exact gaps_blank_comment hblank (comment_before_less hcomment (List.take_prefix m y)) hgaps

theorem covers_leftOut (e : StatementEnd) : (law d).Covers [] (leftOut d e) := by
  intro cs p m hp hm
  change ((law d).realmOf cs).LeadsTo _ (leftOut d e gaps p m)
  rw [leftOut]
  split
  · exact hm
  · exact ⟨hp, hm, rfl⟩
  · rename_i n _ hinserted
    obtain ⟨hle, hgaps⟩ := gaps_of_insertedOver hinserted
    have hraw : p.raw = p.raw.take n ++ p.raw.drop n := (List.take_append_drop n p.raw).symm
    have hlength : (p.raw.take n).length = n := List.length_take_of_le hle
    have hnext := isIn_of (L := law d) ((IsIn.raw hp).symm.trans hraw)
    rw [hlength] at hnext
    refine ⟨hnext, hm, ?_⟩
    have htext := (law d).text (p.raw.take n)
    rw [show ((law d).gaps (p.raw.take n)).2 = [] from hgaps, List.append_nil] at htext
    exact (congrArg (· ++ p.raw.drop n) htext).trans hraw.symm

/-! ### Readers that keep a level -/

/-- A reader that puts behind a forest of a level what may stand there. -/
abbrev Keeps (d : Dialect) (ℓ : Level) (a : Forest) (p : Part) : Prop :=
  (law d).Keeps (ℓ.Holds d) a p

/-- A reader of something solid. -/
class Fills (d : Dialect) (p : Part) : Prop where
  reads : Reads d p Filled

instance fits_holds : (law d).Fits (ℓ.Holds d) := ⟨ℓ.holds_nil d, Level.holds_append, holds_gap⟩

instance admits_holds {k : Kind} [IsPlain k] : Law.Admits (ℓ.Holds d) k := ⟨fun cs => Level.holds_leaf cs⟩

/-- Kinds of nodes other than those that can declare what is defined elsewhere. -/
class IsOther (k : Kind) : Prop where
  ne_item : k ≠ .item

instance isOther_form (f : Form) : IsOther (.form f) := ⟨nofun⟩

theorem holds_other (d : Dialect) (ℓ : Level) {k : Kind} [hk : IsPlain k] [hother : IsOther k]
    (vs : Forest) : IsBuilt d (.node k vs) ∧ ℓ.Admits (.node k vs) :=
  have hambient : (Tree.node k vs).isAmbient = false := Tree.isAmbient_of_ne hother.ne_item
  ⟨hk.built d _ rfl hambient, hk.admits ℓ _ rfl hambient⟩

instance keeps_return_close {k : Kind} [hk : IsPlain k] [hother : IsOther k]
    [hp : Keeps d ℓ [] p] : Keeps d ℓ a (do return Tree.close k (a ++ (← p))) :=
  Law.keeps_map (fun _ ha hf =>
    (Level.holds_append.2 ⟨ha, hf⟩).close fun _ vs _ _ => holds_other d ℓ vs) fun f => by
    rw [Tree.textOfList_close, Tree.textOfList_append]

instance keeps_node {k : Kind} [hk : IsPlain k] [hother : IsOther k] [hp : Keeps d .all [] p] :
    Keeps d ℓ [] (node k p) :=
  .of_nil (.map hp.reads_nil fun _ hf => hf.close fun _ vs _ _ => holds_other d ℓ vs)
    (hp.covers.node k)

theorem keeps_item_of_reads {P : Forest → Prop} (hp : Reads d p fun f => Level.all.Holds d f ∧ P f)
    (hc : (law d).Covers [] p)
    (hP : ∀ us vs, P (us ++ vs) → (∀ u ∈ us, u.kind.isOutside = true) →
      (Tree.node .item vs).isAmbient = false) : Keeps d ℓ [] (node .item p) := by
  refine .of_nil (.map hp fun f hf => hf.1.close ?_) (hc.node .item)
  rintro us vs rfl hus
  have hambient := hP us vs hf.2 hus
  exact ⟨isPlain_item.built d _ rfl hambient, isPlain_item.admits ℓ _ rfl hambient⟩

instance keeps_item [hp : Keeps d .decorated [] p] : Keeps d ℓ [] (node .item p) := by
  refine keeps_item_of_reads (hp.reads_nil.mono fun f hf => ⟨.of_allBuilt hf.1, hf.2⟩) hp.covers ?_
  intro us vs hholds _
  have hnone : vs.any (fun t => t.kind.isClass) = false := List.any_eq_false.2 fun t ht => by
    have hadmits := hholds t (List.mem_append_right us ht)
    have hdeclares := (Bool.or_eq_false_iff.1 hadmits).1
    revert hdeclares
    cases t.kind <;> simp [Kind.declares, Kind.isClass]
  rw [Tree.isAmbient, hnone, Bool.and_false]

/-! ### Constructs that begin with something else -/

/-- Neighbouring trees that do not begin with the word `declare`. -/
def BeginsElse : Forest → Prop :=
  Led (·.kind.isOutside = true) fun t => t.kind.isOutside = false ∧ t.isWord "declare" = false

/-- A reader of what does not begin with the word `declare`. -/
class Begins (d : Dialect) (p : Part) : Prop where
  reads : Reads d p BeginsElse

theorem isOutside_of_mem_gap {raw rest : List Char} {f : Forest} (h : gaps raw = (f, rest)) :
    ∀ t ∈ f, t.kind.isOutside = true := fun t ht =>
  Tree.isOutside_of_isLoose (isGapLeaf_gaps raw t (by rw [h]; exact ht)).isLoose

theorem begins_tokenOf {shape : Shape} {k : Kind} (hk : k.isOutside = false)
    (h : ∀ cs rest, shape.split? (cs ++ rest) = some (cs, rest) →
      (Tree.leaf k cs).isWord "declare" = false) : Begins d (tokenOf shape k) := by
  refine ⟨.tokenOf _ _ fun raw f lexeme rest hgap hsplit => ?_⟩
  exact ⟨f, _, [], rfl, isOutside_of_mem_gap hgap, hk, h lexeme rest hsplit⟩

theorem begins_sym {s : String} (h : s ≠ "declare") : Begins d (sym s) := by
  refine begins_tokenOf rfl fun cs rest hsplit => ?_
  obtain rfl := Shape.eq_of_split?_exactly hsplit
  exact decide_eq_false fun heq => h (String.toList_inj.1 heq)

theorem begins_word {s : String} (h : s ≠ "declare") : Begins d (word s) := by
  refine begins_tokenOf rfl fun cs rest hsplit => ?_
  obtain rfl := Shape.eq_of_split?_exactly_absent hsplit
  exact decide_eq_false fun heq => h (String.toList_inj.1 heq)

instance begins_append [hp : Begins d p] [hq : Keeps d .all [] q] : Begins d (p ++ q) :=
  ⟨.append hp.reads hq.reads fun _ g hf _ => Led.append_left hf g⟩

instance begins_orElse {q : Unit → Part} [hp : Begins d p] [hq : Begins d (q ())] :
    Begins d (HOrElse.hOrElse p q) :=
  ⟨.orElse hp.reads hq.reads⟩

/-- A construct that declarations may be parts of, but not one that declares what is defined
elsewhere. -/
instance keeps_item_of_begins [hp : Keeps d .all [] p] [hbegins : Begins d p] :
    Keeps d ℓ [] (node .item p) := by
  refine keeps_item_of_reads (hp.reads_nil.and hbegins.reads) hp.covers ?_
  intro us vs hled hus
  obtain ⟨ws, t, zs, rfl, hws, -, ht⟩ := Led.parts hled (fun t ht => ht.1) hus
  have hhead : (ws ++ t :: zs).head?.any (Tree.isWord "declare") = false := by
    cases ws with
    | nil => exact ht
    | cons w ws =>
      have hw := hws w List.mem_cons_self
      match w, hw with
      | .node _ _, _ => rfl
      | .leaf .blank _, _ => rfl
      | .leaf .comment _, _ => rfl
      | .leaf .passage _, _ => rfl
  rw [Tree.isAmbient, hhead, Bool.false_and]

/-! ### Tokens -/

instance keeps_leftOut (e : StatementEnd) : Keeps d ℓ [] (leftOut d e) :=
  .of_nil (reads_leftOut e) (covers_leftOut e)

theorem fills_sym {s : String} (h : s ≠ "") : Fills d (sym s) := by
  refine ⟨.tokenOf _ _ fun raw f lexeme rest _ hsplit => .append_right ?_ f⟩
  obtain rfl := Shape.eq_of_split?_exactly hsplit
  have hne : s.toList ≠ [] := fun hnil => h (String.toList_eq_nil_iff.1 hnil)
  refine ⟨[], _, [], rfl, nofun, rfl, s.toList, ?_⟩
  rw [Tree.solidText?, if_neg (by simp [hne])]

theorem fills_append_left [hp : Fills d p] [hq : Keeps d .all [] q] : Fills d (p ++ q) :=
  ⟨.append hp.reads hq.reads fun _ g hf _ => Led.append_left hf g⟩

instance fills_append_right [hp : Keeps d .all [] p] [hq : Fills d q] : Fills d (p ++ q) :=
  ⟨.append hp.reads hq.reads fun f _ _ hg => hg.append_right f⟩

instance fills_orElse {q : Unit → Part} [hp : Fills d p] [hq : Fills d (q ())] :
    Fills d (HOrElse.hOrElse p q) :=
  ⟨.orElse hp.reads hq.reads⟩

theorem fills_node {k : Kind} [hp : Fills d p] (hk : k.isOutside = false) : Fills d (node k p) :=
  ⟨.map hp.reads fun _ hf => hf.close hk⟩

/-! ### Names of one token -/

instance linear_wordEscape : Shape.Linear wordEscape := by
  have hhex : Shape.Linear (.one isHexDigit) := Shape.linear_one rfl rfl
  have hlong : Shape.Linear (.exactly "\\u\x7b") := Shape.linear_exactly (by decide)
  have hshort : Shape.Linear (.exactly "\\u") := Shape.linear_exactly (by decide)
  have hclose : Shape.Linear (.char '\x7d') := Shape.linear_char rfl
  unfold wordEscape
  infer_instance

instance linear_wordShape : Shape.Linear wordShape := by
  have hstart : Shape.Linear (.one isWordStart) := Shape.linear_one rfl rfl
  have hpart : Shape.Linear (.one fun c => isWordStart c || isDigit c) := Shape.linear_one rfl rfl
  unfold wordShape wordStart wordPart
  infer_instance

instance linear_wordWhere (p : List Char → Bool) : Shape.Linear (wordWhere p) := by
  refine ⟨fun {cs n} h => ?_⟩
  rw [wordWhere] at h
  split at h
  · cases h
  · rename_i k hk
    split at h <;> cases h
    exact linear_wordShape.oneLine hk

instance linear_privateName : Shape.Linear privateName := by
  have hmark : Shape.Linear (.char '#') := Shape.linear_char rfl
  unfold privateName
  infer_instance

theorem linear_groupedDigits {p : Char → Bool} (hdigit : Shape.Linear (.one p)) :
    Shape.Linear (groupedDigits p) := by
  have hline : Shape.Linear (.char '_') := Shape.linear_char rfl
  unfold groupedDigits
  infer_instance

theorem linear_basedNumber {mark : Char} {p : Char → Bool}
    (hletter : Shape.Linear (.one fun c => c = mark || c = mark.toUpper))
    (hdigit : Shape.Linear (.one p)) : Shape.Linear (basedNumber mark p) := by
  have hzero : Shape.Linear (.char '0') := Shape.linear_char rfl
  have hdigits := linear_groupedDigits hdigit
  unfold basedNumber
  infer_instance

instance linear_number : Shape.Linear number := by
  have hzero : Shape.Linear (.char '0') := Shape.linear_char rfl
  have hpoint : Shape.Linear (.char '.') := Shape.linear_char rfl
  have hbig : Shape.Linear (.char 'n') := Shape.linear_char rfl
  have hline : Shape.Linear (.char '_') := Shape.linear_char rfl
  have hdigits : Shape.Linear (groupedDigits isDigit) := linear_groupedDigits (Shape.linear_one rfl rfl)
  have hinteger : Shape.Linear decimalInteger := by
    have hfirst : Shape.Linear (.one fun c => isDigit c && c != '0') := Shape.linear_one rfl rfl
    unfold decimalInteger
    infer_instance
  have hexponent : Shape.Linear exponent := by
    have hletter : Shape.Linear (.one fun c => c = 'e' || c = 'E') := Shape.linear_one rfl rfl
    have hsign : Shape.Linear (.one fun c => c = '+' || c = '-') := Shape.linear_one rfl rfl
    unfold exponent
    infer_instance
  have hhex : Shape.Linear (basedNumber 'x' isHexDigit) :=
    linear_basedNumber (Shape.linear_one rfl rfl) (Shape.linear_one rfl rfl)
  have hoctal : Shape.Linear (basedNumber 'o' fun c => '0' ≤ c && c ≤ '7') :=
    linear_basedNumber (Shape.linear_one rfl rfl) (Shape.linear_one rfl rfl)
  have hbinary : Shape.Linear (basedNumber 'b' fun c => c = '0' || c = '1') :=
    linear_basedNumber (Shape.linear_one rfl rfl) (Shape.linear_one rfl rfl)
  unfold number
  infer_instance

/-- A shape of names. -/
class Names (shape : Shape) : Prop where
  text : ∀ {cs lexeme rest}, shape.split? cs = some (lexeme, rest) → IsNameText lexeme

instance (priority := low) names_of_linear {shape : Shape} [Shape.Linear shape] : Names shape :=
  ⟨fun h => .inl (Shape.oneLine_of_split? h)⟩

theorem cons_of_quotedBy {q : Char} {cs lexeme rest : List Char}
    (h : (quotedBy q).split? cs = some (lexeme, rest)) : ∃ r, lexeme = q :: r := by
  obtain ⟨n, hn, hcut⟩ := Option.map_eq_some_iff.1 h
  rw [quotedBy, Shape.append_assoc] at hn
  obtain ⟨c, r, m, rfl, hc, -, rfl⟩ := Shape.eq_of_one_append hn
  obtain rfl : c = q := of_decide_eq_true hc
  rw [Nat.add_comm, List.take_succ_cons] at hcut
  exact ⟨r.take m, (Prod.mk.inj hcut).1.symm⟩

instance names_string : Names string := by
  refine ⟨fun {cs lexeme rest} h => .inr ?_⟩
  rw [Shape.split?, string, Shape.orElse_apply] at h
  obtain ⟨n, hn, hcut⟩ := Option.map_eq_some_iff.1 h
  rcases Option.or_eq_some_iff.1 hn with hn | ⟨-, hn⟩
  · obtain ⟨r, hr⟩ := cons_of_quotedBy (Option.map_eq_some_iff.2 ⟨n, hn, hcut⟩)
    exact ⟨_, r, hr, .inr (.inl rfl)⟩
  · obtain ⟨r, hr⟩ := cons_of_quotedBy (Option.map_eq_some_iff.2 ⟨n, hn, hcut⟩)
    exact ⟨_, r, hr, .inr (.inr rfl)⟩

instance keeps_nameOf {shape : Shape} [hshape : Names shape] : Keeps d ℓ [] (tokenOf shape .name) :=
  .of_nil (.tokenOf _ _ fun _ _ _ _ hgap hsplit =>
    Level.holds_append.2 ⟨holds_gap hgap, Level.holds_name (hshape.text hsplit)⟩) (.tokenOf _ _)

instance keeps_named_name : Keeps d ℓ [] (named .name) := keeps_nameOf
instance keeps_name_name : Keeps d ℓ [] (d.name .name) := keeps_nameOf

/-! ### Names that are put together -/

/-- Neighbouring trees the last of which is solid to its end. -/
def EndsSolid (f : Forest) : Prop :=
  ∃ us t, f = us ++ [t] ∧ t.kind.isOutside = false ∧ t.solidText? = some t.text

theorem EndsSolid.append_right {g : Forest} (h : EndsSolid g) (f : Forest) : EndsSolid (f ++ g) := by
  obtain ⟨us, t, rfl, ht⟩ := h
  exact ⟨f ++ us, t, (List.append_assoc f us [t]).symm, ht⟩

theorem EndsSolid.parts {us vs : Forest} (h : EndsSolid (us ++ vs))
    (hus : ∀ u ∈ us, u.kind.isOutside = true) :
    Tree.solidTextOfList? vs = some (Tree.textOfList vs) := by
  obtain ⟨ws, t, heq, houtside, hsolid⟩ := h
  rcases List.eq_nil_or_concat vs with rfl | ⟨zs, z, rfl⟩
  · have hmem : t ∈ us := by rw [← List.append_nil us, heq]; simp
    rw [hus t hmem] at houtside
    cases houtside
  · rw [List.concat_eq_append, ← List.append_assoc] at heq
    obtain ⟨-, hz⟩ := List.append_inj' heq rfl
    obtain rfl := (List.cons.inj hz).1
    have hlast : Tree.solidTextOfList? [z] = some (Tree.textOfList [z]) := by
      rw [Tree.solidTextOfList?, Tree.textOfList, Tree.textOfList, List.append_nil]
      exact hsolid
    rw [List.concat_eq_append, Tree.solidTextOfList?_append hlast, Tree.textOfList_append]

theorem endsSolid_sym {s : String} (h : s ≠ "") : Reads d (sym s) EndsSolid := by
  refine .tokenOf _ _ fun raw f lexeme rest _ hsplit => ?_
  obtain rfl := Shape.eq_of_split?_exactly hsplit
  have hne : s.toList ≠ [] := fun hnil => h (String.toList_eq_nil_iff.1 hnil)
  refine ⟨f, _, rfl, rfl, ?_⟩
  rw [Tree.solidText?, if_neg (by simp [hne])]
  rfl

theorem endsSolid_append {q : Part} [hp : Keeps d .all [] p] (hq : Reads d q EndsSolid) :
    Reads d (p ++ q) EndsSolid :=
  .append hp.reads_nil hq fun f _ _ hg => hg.append_right f

def OpensBracket : Forest → Prop :=
  Led (·.isLoose = true) (· = .leaf .token ['['])

theorem opensBracket_sym : Reads d (sym "[") OpensBracket := by
  refine .tokenOf _ _ fun raw f lexeme rest hgap hsplit => ?_
  obtain rfl := Shape.eq_of_split?_exactly hsplit
  refine ⟨f, _, [], rfl, fun t ht => ?_, rfl⟩
  exact (isGapLeaf_gaps raw t (by rw [show gaps raw = _ from hgap]; exact ht)).isLoose

theorem opensBracket_append {q : Part} [hq : Keeps d .all [] q] (hp : Reads d p OpensBracket) :
    Reads d (p ++ q) OpensBracket :=
  .append hp hq.reads_nil fun _ g hf _ => Led.append_left hf g

theorem keeps_nameNode [hp : Keeps d .all [] p] (hopens : Reads d p OpensBracket)
    (hends : Reads d p EndsSolid) : Keeps d ℓ [] (node .name p) := by
  refine .of_nil (.map ((hp.reads_nil.and hopens).and hends) fun f hf => ?_) (hp.covers.node .name)
  obtain ⟨⟨hholds, us, t, vs, rfl, hus, rfl⟩, hsolid⟩ := hf
  have houtside (u : Tree) (hu : u ∈ us) : u.kind.isOutside = true :=
    Tree.isOutside_of_isLoose (hus u hu)
  have hfull : (Tree.node .name (.leaf .token ['['] :: vs)).solidText?.getD [] =
      (Tree.node .name (.leaf .token ['['] :: vs)).text := by
    rw [Tree.solidText?, hsolid.parts houtside]
    rfl
  have hname : IsName (.node .name (.leaf .token ['['] :: vs)) :=
    ⟨hfull, .inr ⟨'[', Tree.textOfList vs, rfl, .inl rfl⟩⟩
  obtain ⟨hgap, hparts⟩ := Level.holds_append.1 hholds
  rw [Tree.close_append hus rfl]
  exact Level.holds_append.2 ⟨⟨hgap.1, fun u hu => Level.admits_of_isOutside (houtside u hu)⟩,
    Level.holds_node (isBuilt_name rfl hname) (Level.admits_name rfl) hparts.1⟩

end Docent.Script
