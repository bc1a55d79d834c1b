import Docent.Proofs.Indented.Reading
import Mathlib.Logic.Basic

/-!
# Readers that add what they read

Readers come in three kinds: those that put the text they move past behind a forest, those that
never succeed and are there to refuse a source, and those of which only the memory counts. Apart
from that a reader may be known to give forests that have something solid in them, or an expression,
or that begin or end as a definition does. A reader is of a kind when the readers that it is built
from are, and instances find that out.
-/

namespace Docent.Indented

open Docent.Tree (Filled)

namespace Reader

/-! ### Kinds of readers -/

variable {α β : Type}

/-- A reader that leaves a true memory behind. -/
class Steady (p : Reader α) : Prop where
  meets : p.Meets fun _ _ _ _ => True

/-- A reader that never succeeds. -/
class Barren (p : Reader α) : Prop where
  meets : p.Meets fun _ _ _ _ => False

/-- A reader that puts what it reads behind a forest. -/
class Adds (ℓ : Level) (a : Forest) (p : Reader Forest) : Prop where
  meets : p.Meets fun src i f j => src.Extends ℓ a i f j

/-- A reader that gives forests of a sort. -/
class Gives (P : Forest → Prop) (p : Reader Forest) : Prop where
  meets : p.Meets fun _ _ f _ => P f

/-! ### Combinators of readers -/

section

variable {ℓ : Level} {a : Forest} {p q : Reader Forest}

instance (priority := low) steady_of_adds [hp : Adds .all [] p] : Steady p :=
  ⟨hp.meets.mono fun _ _ _ _ _ => trivial⟩

instance (priority := 50) steady_of_barren {p : Reader α} [hp : Barren p] : Steady p :=
  ⟨hp.meets.mono fun _ _ _ _ _ => trivial⟩

instance (priority := low) adds_of_barren [hp : Barren p] : Adds ℓ a p :=
  ⟨hp.meets.mono fun _ _ _ _ h => h.elim⟩

instance steady_pure (x : α) : Steady (pure x : Reader α) := ⟨.pure _ fun _ _ => trivial⟩

instance steady_bind {p : Reader α} {f : α → Reader β} [hp : Steady p] [hf : ∀ x, Steady (f x)] :
    Steady (p >>= f) :=
  ⟨.bind hp.meets (fun x => (hf x).meets) fun _ _ _ _ _ _ _ _ _ => trivial⟩

instance steady_peek : Steady peek := ⟨Meets.peek.mono fun _ _ _ _ _ => trivial⟩

instance steady_line : Steady line := ⟨Meets.peek.map fun _ _ _ _ _ => trivial⟩

instance steady_depth : Steady depth := ⟨Meets.depth⟩

instance barren_fail : Barren (fail : Reader α) := ⟨.fail⟩

instance barren_refuse (fault : Fault) (line : Nat) : Barren (refuse fault line : Reader α) :=
  ⟨.refuse fault line⟩

instance barren_refuseHere (fault : Fault) : Barren (refuseHere fault : Reader α) :=
  ⟨.refuseHere fault⟩

instance barren_refuseTarget (place : TargetPlace) (line : Nat) (f : Forest) :
    Barren (refuseTarget place line f : Reader α) := by
  unfold refuseTarget
  split
  · exact barren_fail
  · exact barren_refuse _ _

instance barren_refuseForm (fault : Form → Fault) (line : Nat) (f : Forest) :
    Barren (refuseForm fault line f : Reader α) :=
  barren_refuse _ _

instance barren_refuseAt (fault : Fault) (line : Nat) (f : Forest) :
    Barren (refuseAt fault line f : Reader α) :=
  barren_refuse _ _

instance barren_bind {p : Reader α} {f : α → Reader β} [hp : Steady p] [hf : ∀ x, Barren (f x)] :
    Barren (p >>= f) :=
  ⟨.bind hp.meets (fun x => (hf x).meets) fun _ _ _ _ _ _ _ _ h => h⟩

instance barren_orElse {p : Reader α} {q : Unit → Reader α} [hp : Barren p] [hq : Barren (q ())] :
    Barren (HOrElse.hOrElse p q) :=
  ⟨.orElse hp.meets hq.meets⟩

instance barren_explaining {p : Reader α} [hp : Barren p] : Barren (explaining p) :=
  ⟨.explaining hp.meets⟩

instance barren_commit {p : Reader α} {f : α → Reader β} {q : Reader β} [hp : Steady p]
    [hf : ∀ x, Barren (f x)] [hq : Barren q] : Barren (commit p f q) :=
  ⟨.commit hp.meets (fun x => (hf x).meets) hq.meets fun _ _ _ _ _ _ _ _ h => h⟩

instance barren_ite {c : Prop} [Decidable c] {p q : Reader α} [hp : Barren p] [hq : Barren q] :
    Barren (if c then p else q) := by
  split
  · exact hp
  · exact hq

instance barren_append_right [hp : Adds .all [] p] [hq : Barren q] : Barren (p ++ q) :=
  ⟨.append hp.meets hq.meets fun _ _ _ _ _ _ _ h => h⟩

instance barren_append_left [hp : Barren p] [hq : Adds .all [] q] : Barren (p ++ q) :=
  ⟨.append hp.meets hq.meets fun _ _ _ _ _ _ h _ => h⟩

instance adds_pure : Adds ℓ a (pure a) := ⟨.pure _ fun _ _ => .refl _ _⟩

instance adds_append [hp : Adds ℓ a p] [hq : Adds ℓ [] q] : Adds ℓ a (p ++ q) :=
  ⟨.append hp.meets hq.meets fun _ _ f _ _ _ hf hg => hf.trans (hg.append f)⟩

instance adds_orElse {q : Unit → Reader Forest} [hp : Adds ℓ a p] [hq : Adds ℓ a (q ())] :
    Adds ℓ a (HOrElse.hOrElse p q) :=
  ⟨.orElse hp.meets hq.meets⟩

instance adds_ite {c : Prop} [Decidable c] [hp : Adds ℓ a p] [hq : Adds ℓ a q] :
    Adds ℓ a (if c then p else q) := by
  split
  · exact hp
  · exact hq

instance adds_bind {f : Forest → Reader Forest} [hp : Adds ℓ a p] [hf : ∀ x, Adds ℓ x (f x)] :
    Adds ℓ a (p >>= f) :=
  ⟨.bind hp.meets (fun x => (hf x).meets) fun _ _ _ _ _ _ _ h h' => h.trans h'⟩

instance adds_peek_bind {f : Token → Reader Forest} [hf : ∀ t, Adds ℓ a (f t)] :
    Adds ℓ a (peek >>= f) :=
  ⟨.bind .peek (fun t => (hf t).meets) fun _ _ _ _ _ _ _ ⟨_, hj⟩ h => hj ▸ h⟩

theorem adds_bind_pure {h : Forest → Forest} [hq : Adds ℓ [] q]
    (hh : ∀ (src : Source) i f j, src.Extends ℓ a i (a ++ f) j → src.Extends ℓ a i (h f) j) :
    Adds ℓ a (q >>= fun f => pure (h f)) :=
  ⟨.bind (S := fun f _ i g j => g = h f ∧ j = i) hq.meets
    (fun _ => .pure _ fun _ _ => ⟨rfl, rfl⟩)
    fun _ _ f _ _ _ _ hf ⟨hg, hk⟩ => hg ▸ hk ▸ hh _ _ f _ (hf.append a)⟩

instance adds_return_append [hq : Adds ℓ [] q] : Adds ℓ a (do return a ++ (← q)) :=
  adds_bind_pure fun _ _ _ _ h => h

instance adds_return_close {k : Kind} [IsPlain k] [hq : Adds ℓ [] q] :
    Adds ℓ a (do return Tree.close k (a ++ (← q))) :=
  adds_bind_pure fun _ _ _ _ h => h.close k

instance adds_return_closeMore {f : Form} [hq : Adds ℓ [] q] :
    Adds ℓ a (do
      let more ← q
      return if more.isEmpty then a else Tree.close (.form f) (a ++ more)) := by
  refine adds_bind_pure fun src i more j h => ?_
  split
  · rename_i hmore
    rwa [List.isEmpty_iff.1 hmore, List.append_nil] at h
  · exact h.close (.form f)

instance adds_commit {f : Forest → Reader Forest} [hp : Adds ℓ a p] [hf : ∀ x, Adds ℓ x (f x)]
    [hq : Adds ℓ a q] : Adds ℓ a (commit p f q) :=
  ⟨.commit hp.meets (fun x => (hf x).meets) hq.meets fun _ _ _ _ _ _ _ h h' => h.trans h'⟩

instance adds_ahead [hp : Steady p] : Adds ℓ [] (ahead p) := ⟨.ahead hp.meets⟩

instance adds_absent [hp : Steady p] : Adds ℓ [] (absent p) := ⟨.absent hp.meets⟩

instance adds_plainly [hp : Adds ℓ a p] : Adds ℓ a (plainly p) := ⟨.plainly hp.meets⟩

instance adds_opt [hp : Adds ℓ [] p] : Adds ℓ [] (opt p) := ⟨.orElse hp.meets adds_pure.meets⟩

instance adds_many [hp : Adds ℓ [] p] : Adds ℓ [] (many p) := ⟨.many hp.meets⟩

instance adds_many1 [hp : Adds ℓ [] p] : Adds ℓ [] (many1 p) := adds_append

instance adds_sepBy [hp : Adds ℓ [] p] [hq : Adds ℓ [] q] : Adds ℓ [] (sepBy p q) := adds_append

instance adds_extend {step : Forest → Reader Forest} [hp : Adds ℓ [] p]
    [hstep : ∀ x, Adds ℓ x (step x)] : Adds ℓ [] (extend p step) :=
  ⟨.bind hp.meets (fun x src pos m =>
    Meets.extendFor (fun y => (hstep y).meets) (src.tokens.size - pos + 1) x src pos m)
    fun _ _ _ _ _ _ _ h h' => h.trans h'⟩

instance adds_node {k : Kind} [IsPlain k] [hp : Adds ℓ a p] : Adds ℓ a (node k p) :=
  ⟨hp.meets.map fun _ _ _ _ h => h.close k⟩

instance adds_form {f : Form} [hp : Adds ℓ a p] : Adds ℓ a (form f p) :=
  ⟨hp.meets.map fun _ _ _ _ h => h.close (.form f)⟩

instance adds_body [hp : Adds .all [] p] : Adds .all [] (node .body p) :=
  ⟨hp.meets.map fun _ _ _ _ h => h.close_of ⟨nofun, nofun⟩ fun hf =>
    hf.close fun _ vs _ _ => by
      refine ⟨fun k ts hts => ?_, nofun⟩
      obtain ⟨rfl, -⟩ := Tree.node.inj hts
      rintro (h | h) <;> cases h⟩

theorem adds_definition {k : Kind} (hk : k.IsInner) [hp : Adds .all [] p]
    [hdefines : Gives (Defines (definitionWords k)) p] : Adds .all [] (node k p) :=
  ⟨(hp.meets.and hdefines.meets).map fun _ _ _ _ ⟨h, hf⟩ => h.close_of hk hf.close⟩

instance adds_class [Adds .all [] p] [Gives (Defines (definitionWords .classDecl)) p] :
    Adds .all [] (node .classDecl p) :=
  adds_definition ⟨nofun, nofun⟩

instance adds_method [Adds .all [] p] [Gives (Defines (definitionWords .method)) p] :
    Adds .all [] (node .method p) :=
  adds_definition ⟨nofun, nofun⟩

end

/-! ### What readers give -/

section

variable {P Q : Forest → Prop} {p q : Reader Forest}

instance (priority := 50) gives_of_barren [hp : Barren p] : Gives P p :=
  ⟨hp.meets.mono fun _ _ _ _ h => h.elim⟩

instance gives_true [hp : Steady p] : Gives (fun _ => True) p := ⟨hp.meets⟩

theorem Gives.mono (hp : Gives P p) (h : ∀ f, P f → Q f) : Gives Q p :=
  ⟨hp.meets.mono fun _ _ f _ => h f⟩

instance gives_orElse {q : Unit → Reader Forest} [hp : Gives P p] [hq : Gives P (q ())] :
    Gives P (HOrElse.hOrElse p q) :=
  ⟨.orElse hp.meets hq.meets⟩

instance gives_bind {p : Reader α} {f : α → Reader Forest} [hp : Steady p]
    [hf : ∀ x, Gives P (f x)] : Gives P (p >>= f) :=
  ⟨.bind hp.meets (fun x => (hf x).meets) fun _ _ _ _ _ _ _ _ h => h⟩

instance gives_commit {p : Reader α} {f : α → Reader Forest} [hp : Steady p]
    [hf : ∀ x, Gives P (f x)] [hq : Gives P q] : Gives P (commit p f q) :=
  ⟨.commit hp.meets (fun x => (hf x).meets) hq.meets fun _ _ _ _ _ _ _ _ h => h⟩

instance gives_plainly [hp : Gives P p] : Gives P (plainly p) := ⟨.plainly hp.meets⟩

theorem gives_append {R : Forest → Prop} (hp : Gives P p) (hq : Gives Q q)
    (h : ∀ f g, P f → Q g → R (f ++ g)) : Gives R (p ++ q) :=
  ⟨.append hp.meets hq.meets fun _ _ f _ g _ => h f g⟩

theorem gives_map {h : Forest → Forest} (hp : Gives P p) (hh : ∀ f, P f → Q (h f)) :
    Gives Q (h <$> p) :=
  ⟨hp.meets.map fun _ _ f _ => hh f⟩

/-- A reader whose result is extended step by step gives what its first part and its steps give. -/
instance gives_extend {step : Forest → Reader Forest} [hp : Gives P p]
    [hstep : ∀ x, Gives P (step x)] : Gives P (extend p step) :=
  ⟨.bind hp.meets (S := fun a _ _ f _ => P a → P f) (fun x src pos m =>
    Meets.extendFor_gives (fun y => (hstep y).meets) (src.tokens.size - pos + 1) x src pos m)
    fun _ _ _ _ _ _ _ h h' => h' h⟩

/-! #### Something solid -/

/-- The kinds that a construct may begin with. -/
class IsInside (k : Kind) : Prop where
  isOutside_eq : k.isOutside = false

instance isInside_token : IsInside .token := ⟨rfl⟩
instance isInside_name : IsInside .name := ⟨rfl⟩
instance isInside_item : IsInside .item := ⟨rfl⟩
instance isInside_method : IsInside .method := ⟨rfl⟩
instance isInside_class : IsInside .classDecl := ⟨rfl⟩
instance isInside_form (f : Form) : IsInside (.form f) := ⟨rfl⟩

instance filled_append_left [hp : Gives Filled p] [hq : Steady q] : Gives Filled (p ++ q) :=
  gives_append hp ⟨hq.meets⟩ fun _ g hf _ => Tree.Led.append_left hf g

instance (priority := low) filled_append_right [hp : Steady p] [hq : Gives Filled q] :
    Gives Filled (p ++ q) :=
  gives_append ⟨hp.meets⟩ hq fun f _ _ hg => Filled.append_right hg f

instance filled_many1 [hp : Gives Filled p] [hq : Steady (many p)] : Gives Filled (many1 p) :=
  filled_append_left

instance filled_sepBy [hp : Gives Filled p] [hq : Steady (many (q ++ p))] :
    Gives Filled (sepBy p q) :=
  filled_append_left

instance filled_node {k : Kind} [hk : IsInside k] [hp : Gives Filled p] : Gives Filled (node k p) :=
  gives_map hp fun _ hf => hf.close hk.isOutside_eq

instance filled_form {f : Form} [Gives Filled p] : Gives Filled (form f p) :=
  filled_node (k := .form f)

instance filled_return_append {a : Forest} [hq : Gives Filled q] :
    Gives Filled (do return a ++ (← q)) :=
  ⟨hq.meets.bind (S := fun f _ _ g _ => g = a ++ f) (fun _ => .pure _ fun _ _ => rfl)
    fun _ _ _ _ _ _ _ hf hg => hg ▸ hf.append_right a⟩

instance filled_return_close {k : Kind} [hk : IsInside k] {a : Forest} [hq : Gives Filled q] :
    Gives Filled (do return Tree.close k (a ++ (← q))) :=
  ⟨hq.meets.bind (S := fun f _ _ g _ => g = Tree.close k (a ++ f)) (fun _ => .pure _ fun _ _ => rfl)
    fun _ _ _ _ _ _ _ hf hg => hg ▸ (hf.append_right a).close hk.isOutside_eq⟩

/-! #### Expressions -/

instance hasForm_append_left [hp : Gives HasForm p] [hq : Steady q] : Gives HasForm (p ++ q) :=
  gives_append hp ⟨hq.meets⟩ fun _ g hf _ => Tree.Led.append_left hf g

instance (priority := low) hasForm_append_right [hp : Steady p] [hq : Gives HasForm q] :
    Gives HasForm (p ++ q) :=
  gives_append ⟨hp.meets⟩ hq fun _ _ _ hg => Tree.Led.append_right hg fun _ _ => trivial

instance hasForm_form {f : Form} [hp : Gives Filled p] : Gives HasForm (form f p) :=
  gives_map hp fun _ => HasForm.of_close f

theorem hasForm_closeMore {f : Form} (hp : Gives HasForm p) (hq : Steady q) :
    Gives HasForm (do
      let a ← p
      let more ← q
      return if more.isEmpty then a else Tree.close (.form f) (a ++ more)) := by
  refine ⟨hp.meets.bind (S := fun a _ _ g _ => HasForm a → HasForm g) (fun a => ?_)
    fun _ _ _ _ _ _ _ ha hg => hg ha⟩
  refine hq.meets.bind (S := fun more _ _ g _ => g = if more.isEmpty then a else
    Tree.close (.form f) (a ++ more)) (fun _ => .pure _ fun _ _ => rfl) ?_
  rintro - - more - - - - - rfl ha
  split
  · exact ha
  · exact .of_close f (Tree.Led.append_left ha.filled more)

/-! #### Definitions -/

instance begins_append {words : List String} [hp : Gives (BeginsWith words) p] [hq : Steady q] :
    Gives (BeginsWith words) (p ++ q) := by
  refine gives_append hp ⟨hq.meets⟩ ?_
  rintro - g ⟨us, w, hs, rfl, hus, hw⟩ -
  exact ⟨us, w, hs ++ g, by simp, hus, hw⟩

instance endsWithSuite_append [hp : Steady p] [hq : Gives EndsWithSuite q] :
    Gives EndsWithSuite (p ++ q) := by
  refine gives_append ⟨hp.meets⟩ hq ?_
  rintro f - - ⟨hs, b, rfl, hb⟩
  exact ⟨f ++ hs, b, by rw [List.append_assoc], hb⟩

instance endsWithSuite_body [hp : Gives Filled p] : Gives EndsWithSuite (node .body p) := by
  refine gives_map hp fun f hf => ?_
  obtain ⟨us, vs, rfl, hclose, hus⟩ := Tree.close_eq .body f
  rw [hclose]
  exact ⟨us, _, rfl, rfl, hf.parts hus⟩

instance decoratorRun_node [hbegins : Gives (BeginsWith ["@"]) p] [hform : Gives HasForm p] :
    Gives IsDecoratorRun (node .decorator p) :=
  ⟨(hbegins.meets.and hform.meets).map fun _ _ _ _ h => isDecoratorRun_close h.1 h.2⟩

instance decoratorRun_many1 [hp : Gives IsDecoratorRun p] : Gives IsDecoratorRun (many1 p) := by
  refine gives_append (Q := fun f => ∀ u ∈ f, IsDecorator u ∨ isGap u = true) hp
    ⟨(Meets.manyList_each hp.meets).map fun _ _ fs _ hfs u hu => ?_⟩ fun _ _ => .append
  obtain ⟨f, hf, hu⟩ := List.mem_flatten.1 hu
  exact (hfs f hf).2 u hu

theorem defines_of_begins {words : List String} (hbegins : Gives (BeginsWith words) p)
    (hends : Gives EndsWithSuite p) : Gives (Defines words) p :=
  ⟨(hbegins.meets.and hends.meets).mono fun _ _ _ _ h => defines_of_keyword h.1 h.2⟩

theorem defines_of_decorators {words : List String} [hadds : Adds .plain [] p]
    (hdecorators : Gives IsDecoratorRun p) (hbegins : Gives (BeginsWith words) q)
    (hends : Gives EndsWithSuite q) : Gives (Defines words) (p ++ q) :=
  ⟨.append (hdecorators.meets.and hadds.meets) (hbegins.meets.and hends.meets)
    fun _ _ _ _ _ _ hf hg => .decorated hf.1 hf.2.holds hg.1 hg.2⟩

end

/-! ### Tokens -/

variable {ℓ : Level}

theorem isSolid_of_isSymbol {s : String} {t : Token} (h : t.isSymbol s = true) :
    t.isSolid = true := by
  unfold Token.isSymbol at h
  unfold Token.isSolid
  split at h <;> rename_i hkind
  · rw [hkind]
  · rw [hkind]
  · cases h

theorem symbol_eq_of_isSymbol {s : String} {t : Token} (h : t.isSymbol s = true) :
    t.symbol = s := by
  unfold Token.isSymbol at h
  split at h
  · exact of_decide_eq_true h
  · exact of_decide_eq_true h
  · cases h

theorem isSolid_of_isName {t : Token} (h : t.isName = true) : t.isSolid = true := by
  unfold Token.isName at h
  unfold Token.isSolid
  split at h <;> rename_i hkind
  · rw [hkind]
  · cases h

theorem isSolid_of_isString {t : Token} (h : t.isString = true) : t.isSolid = true := by
  unfold Token.isString at h
  unfold Token.isSolid
  split at h <;> rename_i hkind
  · rw [hkind]
  · cases h

theorem isSolid_of_isNumber {t : Token} (h : t.isNumber = true) : t.isSolid = true := by
  unfold Token.isNumber at h
  unfold Token.isSolid
  split at h <;> rename_i hkind
  · rw [hkind]
  · cases h

/-- A reader of one word, literal or mark of a class, as a leaf of a kind. -/
structure Takes (p : Token → Prop) (kind : Kind) (r : Reader Forest) : Prop where
  meets : r.Meets (IsToken p kind)
  isSolid : ∀ t, p t → t.isSolid = true

namespace Takes

variable {p : Token → Prop} {kind : Kind} {r : Reader Forest}

theorem adds (hr : Takes p kind r) (hkind : kind ≠ .name) : Adds ℓ [] r :=
  ⟨hr.meets.mono fun _ _ _ _ h => h.extension (fun t ht => .inr (hr.isSolid t ht))
    fun t _ _ => ℓ.allows_leaf kind hkind t.text⟩

theorem filled (hr : Takes p kind r) [hk : IsInside kind] : Gives Filled r :=
  ⟨hr.meets.mono fun _ _ _ _ h => h.filled hr.isSolid hk.isOutside_eq⟩

theorem hasForm {k : Form} (hr : Takes p (.form k) r) : Gives HasForm r :=
  ⟨hr.meets.mono fun _ _ _ _ h => h.hasForm hr.isSolid⟩

end Takes

theorem takes_symbol (s : String) (k : Kind) :
    Takes (·.isSymbol s = true) k (tokenOf (Token.isSymbol s) k) :=
  ⟨.tokenOf _ k, fun _ h => isSolid_of_isSymbol h⟩

theorem takes_anySym (ss : List String) :
    Takes (fun t => ss.any (Token.isSymbol · t) = true) .token (anySym ss) := by
  refine ⟨.tokenOf _ _, fun t h => ?_⟩
  obtain ⟨s, -, hs⟩ := List.any_eq_true.1 h
  exact isSolid_of_isSymbol hs

theorem takes_word (s : String) : Takes (·.isWord s = true) .token (word s) :=
  ⟨.tokenOf _ _, fun _ h => isSolid_of_isName (Bool.and_eq_true _ _ ▸ h).1⟩

theorem takes_name (k : Kind) : Takes (·.isName = true) k (name k) :=
  ⟨.tokenOf _ k, fun _ h => isSolid_of_isName h⟩

theorem takes_string (k : Kind) : Takes (·.isString = true) k (tokenOf Token.isString k) :=
  ⟨.tokenOf _ k, fun _ h => isSolid_of_isString h⟩

theorem takes_need (s : String) : Takes (·.isSymbol s = true) .token (need s) := by
  refine ⟨.takeWhen fun t => ?_, fun _ h => isSolid_of_isSymbol h⟩
  split
  · rename_i h
    exact (Meets.take t .token).mono fun _ _ _ _ ht => ⟨h, ht⟩
  · exact .refuse _ _

theorem takes_numberLiteral : Takes (·.isNumber = true) (.form .number) numberLiteral := by
  refine ⟨.takeWhen fun t => ?_, fun _ h => isSolid_of_isNumber h⟩
  split
  · rename_i h
    dsimp only
    split
    · exact .refuse _ _
    · exact (Meets.take t _).mono fun _ _ _ _ ht => ⟨h, ht⟩
  · exact .fail

/-- The kinds of leaves that are no names. -/
class IsNameless (k : Kind) : Prop where
  ne_name : k ≠ .name

instance isNameless_token : IsNameless .token := ⟨nofun⟩
instance isNameless_form (f : Form) : IsNameless (.form f) := ⟨nofun⟩

instance adds_symbol (s : String) (k : Kind) [hk : IsNameless k] :
    Adds ℓ [] (tokenOf (Token.isSymbol s) k) :=
  (takes_symbol s k).adds hk.ne_name
instance adds_sym (s : String) : Adds ℓ [] (sym s) := adds_symbol s .token
instance adds_anySym (ss : List String) : Adds ℓ [] (anySym ss) := (takes_anySym ss).adds nofun
instance adds_word (s : String) : Adds ℓ [] (word s) := (takes_word s).adds nofun
instance adds_name (k : Kind) [hk : IsNameless k] : Adds ℓ [] (name k) :=
  (takes_name k).adds hk.ne_name
instance adds_string (k : Kind) [hk : IsNameless k] : Adds ℓ [] (tokenOf Token.isString k) :=
  (takes_string k).adds hk.ne_name
instance adds_need (s : String) : Adds ℓ [] (need s) := (takes_need s).adds nofun
instance adds_numberLiteral : Adds ℓ [] numberLiteral := takes_numberLiteral.adds nofun

theorem kind_of_isName {t : Token} (h : t.isName = true) : t.kind = .name := by
  unfold Token.isName at h
  split at h
  · assumption
  · cases h

instance adds_name_name : Adds .all [] (name .name) := by
  refine ⟨(takes_name .name).meets.mono fun _ _ _ _ h => h.extension ?_ ?_⟩
  · exact fun t ht => .inr (isSolid_of_isName ht)
  · intro t hsolid ht
    obtain ⟨-, -, -, hword⟩ := hsolid (isSolid_of_isName ht)
    exact Level.allows_name (hword (kind_of_isName ht))

theorem adds_blank (p : Token → Bool) : Adds ℓ [] (tokenOf p .blank) :=
  ⟨(Meets.tokenOf _ _).mono fun _ _ _ _ h => h.extension (fun _ _ => .inl rfl)
    fun t _ _ => ℓ.allows_leaf .blank nofun t.text⟩

instance adds_newline : Adds ℓ [] newline := adds_blank _
instance adds_indent : Adds ℓ [] indent := adds_blank _
instance adds_dedent : Adds ℓ [] dedent := adds_blank _

instance filled_sym (s : String) : Gives Filled (sym s) := (takes_symbol s .token).filled
instance filled_anySym (ss : List String) : Gives Filled (anySym ss) := (takes_anySym ss).filled
instance filled_word (s : String) : Gives Filled (word s) := (takes_word s).filled
instance filled_name (k : Kind) [IsInside k] : Gives Filled (name k) := (takes_name k).filled
instance filled_string : Gives Filled (tokenOf Token.isString .token) :=
  (takes_string .token).filled

instance hasForm_symbol (s : String) (k : Form) :
    Gives HasForm (tokenOf (Token.isSymbol s) (.form k)) :=
  (takes_symbol s (.form k)).hasForm
instance hasForm_name (k : Form) : Gives HasForm (name (.form k)) := (takes_name (.form k)).hasForm
instance hasForm_numberLiteral : Gives HasForm numberLiteral := takes_numberLiteral.hasForm

theorem begins_sym {s : String} {words : List String} (hs : s ∈ words) :
    Gives (BeginsWith words) (sym s) := by
  refine ⟨(Meets.tokenOf _ _).mono fun src i f j h => ?_⟩
  obtain ⟨us, t, rfl, hus, hsymbol, -, heq⟩ := h.eq_concat fun _ => isSolid_of_isSymbol
  have htext : t.text = s.toList := by
    rw [← symbol_eq_of_isSymbol hsymbol, heq, String.toList_ofList]
  rw [htext]
  exact ⟨us, s, [], rfl, hus, hs⟩

instance begins_sym_head (s : String) (words : List String) :
    Gives (BeginsWith (s :: words)) (sym s) :=
  begins_sym List.mem_cons_self

/-! ### String literals -/

instance barren_raiseIssue (issue : StringIssue) : Barren (raiseIssue issue) := by
  cases issue with
  | here f => exact barren_refuseHere f
  | embedded r => exact ⟨fun _ _ _ _ hm => hm⟩

theorem stringLiterals_meets {P : Source → Nat → Forest → Nat → Prop}
    (hparts : (many1 (tokenOf Token.isString .token)).Meets P) :
    stringLiterals.Meets fun src i f j => ∃ parts k, P src i parts j ∧
      f = Tree.close (.form k) parts := by
  let S (parts : Forest) (_ : Source) (i : Nat) (f : Forest) (j : Nat) : Prop :=
    j = i ∧ ∃ k, f = Tree.close (.form k) parts
  refine .bind (S := S) hparts (fun parts src pos m hsrc hm => ?_) ?_
  · dsimp only
    split
    · rename_i issue _
      exact ((barren_raiseIssue issue).meets.mono (Q := S parts)
        fun _ _ _ _ h => h.elim) src pos m hsrc hm
    · exact hm
    · exact ⟨hm, rfl, _, rfl⟩
  · rintro src i parts j f k - hread ⟨rfl, l, rfl⟩
    exact ⟨parts, l, hread, rfl⟩

instance adds_stringLiterals : Adds ℓ [] stringLiterals := by
  refine ⟨(stringLiterals_meets (adds_many1 (ℓ := ℓ)).meets).mono ?_⟩
  rintro src i f j ⟨parts, k, h, rfl⟩
  exact h.close (.form k)

instance hasForm_stringLiterals : Gives HasForm stringLiterals := by
  refine ⟨(stringLiterals_meets (filled_many1).meets).mono ?_⟩
  rintro src i f j ⟨parts, k, h, rfl⟩
  exact .of_close k h

end Reader

end Docent.Indented
