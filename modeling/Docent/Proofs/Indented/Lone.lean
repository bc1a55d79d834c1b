import Docent.Proofs.Indented.Running

/-!
# Statements of one token

Main statement: a string or three dots on a line of their own are read as a statement that is this
one token, and where a suite or the source ends no statement is read.
-/

namespace Docent.Indented

open Reader

/-! ### Plain tokens -/

/-- A token with which no rule begins but those for strings and for three dots. -/
structure Token.IsPlain (t : Token) : Prop where
  name : t.isName = false
  number : t.isNumber = false
  symbol : ∀ s, s ≠ "..." → t.isSymbol s = false

/-- A string token with a value of its own. -/
structure Token.HasValue (names : List Char → Option Char) (t : Token) : Prop where
  text : t.text ≠ []
  bytes : (Literal.ofText t.text).isBytes = false
  formatted : (Literal.ofText t.text).isFormatted = false
  value : ∃ v, (Literal.ofText t.text).value names = .ok v

/-- The rules that read one value, with operators around it or without. -/
def Rule.isValue : Rule → Bool
  | .simpleStatement | .expression | .starExpression | .disjunction | .conjunction | .inversion
  | .bitwiseOr | .bitwiseXor | .bitwiseAnd | .shift | .sum | .term | .factor
  | .awaitPrimary | .primary | .strings => true
  | _ => false

def valueAt (tokens : Array Token) (pos : Nat) : Option (Forest × Nat) :=
  match tokens[pos]? with
  | some t =>
    if t.isString then some (Tree.close (.form .string) (leaves .token t), pos + 1)
    else if t.isSymbol "..." then some (leaves (.form .ellipsis) t, pos + 1)
    else none
  | none => none

namespace Setting

variable {S : Setting} {pos : Nat} {s : String} {ss : List String} {α : Type}

/-- In this setting every value stands by itself, and nothing is a target. -/
def IsLone (S : Setting) : Prop :=
  ∀ pos rule, rule ≠ .block →
    S.table pos rule = if rule.isValue then valueAt S.tokens pos else none

def Plain (S : Setting) (pos : Nat) : Prop := ∃ t, S.At pos t ∧ t.IsPlain

theorem Plain.symbol (h : S.Plain pos) (hs : s ≠ "...") (k : Kind) :
    S.Misses (tokenOf (Token.isSymbol s) k) pos := by
  obtain ⟨t, hat, ht⟩ := h
  exact misses_tokenOf hat (ht.symbol s hs) k

theorem Plain.sym (h : S.Plain pos) (hs : s ≠ "...") : S.Misses (sym s) pos := h.symbol hs _

theorem Plain.anySym (h : S.Plain pos) (hss : "..." ∉ ss) : S.Misses (anySym ss) pos := by
  obtain ⟨t, hat, ht⟩ := h
  refine misses_tokenOf hat ?_ _
  rw [List.any_eq_false]
  exact fun s hs => Bool.eq_false_iff.1 (ht.symbol s (ne_of_mem_of_not_mem hs hss))

theorem Plain.name (h : S.Plain pos) (k : Kind) : S.Misses (name k) pos := by
  obtain ⟨t, hat, ht⟩ := h
  exact misses_tokenOf hat ht.name k

theorem Plain.word (h : S.Plain pos) (s : String) : S.Misses (word s) pos := by
  obtain ⟨t, hat, ht⟩ := h
  exact misses_tokenOf hat (by rw [Token.isWord, ht.name, Bool.false_and]) _

theorem Plain.numberLiteral (h : S.Plain pos) : S.Misses numberLiteral pos := by
  obtain ⟨t, hat, ht⟩ := h
  refine (goes_peek hat).misses_bind ?_
  rw [if_neg (by rw [ht.number]; nofun)]
  exact misses_fail

/-! ### Values -/

/-- A plain token stands at a position; if it is a value, it has a line of its own. -/
structure Lone (S : Setting) (pos : Nat) : Prop where
  plain : S.Plain pos
  string : ∀ t, S.At pos t → t.isString = true → t.HasValue S.names
  next : ∀ f pos', valueAt S.tokens pos = some (f, pos') →
    ∃ t, S.At pos' t ∧ t.IsPlain ∧ t.isNewline = true

theorem Lone.next_plain (h : S.Lone pos) {f : Forest} {pos' : Nat}
    (hvalue : valueAt S.tokens pos = some (f, pos')) : S.Plain pos' := by
  obtain ⟨t, hat, ht, -⟩ := h.next f pos' hvalue
  exact ⟨t, hat, ht⟩

theorem checkStrings_of_hasValue {check : Nat → List Char → Option Refusal} {t : Token}
    (ht : t.HasValue S.names) : checkStrings S.names check none [t] = none := by
  obtain ⟨v, hv⟩ := ht.value
  have hbytes : ¬((Literal.ofText t.text).isBytes = true ∧
      (Literal.ofText t.text).body.any (·.toNat ≥ 0x80) = true) := by simp [ht.bytes]
  simp only [checkStrings, checkString, ht.formatted, hv, if_neg hbytes, Bool.false_eq_true,
    if_false, reduceCtorEq]

theorem stringTokens_one {check : Nat → List Char → Option Refusal} {t : Token} (hat : S.At pos t)
    (hstring : t.isString = true) : stringTokens (S.source check) 1 pos = [t] := by
  rw [stringTokens, show (S.source check).tokens[pos]? = some t from hat.1]
  dsimp only
  rw [if_pos hstring, stringTokens]

theorem goes_stringLiterals {t t' : Token} (hat : S.At pos t) (hstring : t.isString = true)
    (ht : t.HasValue S.names) (hat' : S.At (pos + 1) t') (hnext : t'.isString = false) :
    S.Goes stringLiterals pos (Tree.close (.form .string) (leaves .token t)) (pos + 1) := by
  have hparts : S.Goes (many1 (tokenOf Token.isString .token)) pos (leaves .token t ++ [])
      (pos + 1) :=
    (goes_tokenOf hat hstring _).append (goes_many (misses_tokenOf hat' hnext _))
  rw [List.append_nil] at hparts
  refine hparts.bind fun check m hm => ⟨m, ?_, hm⟩
  have hcount : ((leaves .token t).filter (·.kind = .token)).length = 1 := by
    have htext : t.text.isEmpty = false := by simpa using ht.text
    unfold leaves
    split <;> simp [htext, Tree.kind]
  simp only [hcount, Nat.add_sub_cancel, stringTokens_one hat hstring]
  rw [show (S.source check).names = S.names from rfl, checkStrings_of_hasValue ht]
  simp [ht.formatted, ht.bytes]

/-! ### Rules for values -/

variable {self : Rule → Reader Forest}

theorem misses_bracketed (h : S.Plain pos) (hs : s ≠ "...") (p : Reader Forest) :
    S.Misses (ahead (sym s) ++ p) pos :=
  misses_append (misses_ahead (h.sym hs))

theorem gives_atom (h : S.Lone pos)
    (hstrings : ∀ t, S.At pos t → t.isString = true →
      S.Gives (self .strings) pos (valueAt S.tokens pos)) :
    S.Gives (atom self) pos (valueAt S.tokens pos) := by
  obtain ⟨t, hat, ht⟩ := h.plain
  refine (h.plain.name _).gives ((h.plain.symbol (by decide) _).gives
    ((h.plain.symbol (by decide) _).gives ((h.plain.symbol (by decide) _).gives ?_)))
  cases hstring : t.isString with
  | true =>
    have hvalue := hstrings t hat hstring
    rw [valueAt, hat.1] at hvalue ⊢
    dsimp only at hvalue ⊢
    rw [if_pos hstring] at hvalue ⊢
    exact ((goes_tokenOf hat hstring _).ahead.append hvalue).orElse
  | false =>
    have hahead : S.Misses (ahead (tokenOf Token.isString .token) ++ self .strings) pos :=
      misses_append (misses_ahead (misses_tokenOf hat hstring _))
    refine hahead.gives (h.plain.numberLiteral.gives ((misses_bracketed h.plain (by decide) _).gives
      ((misses_bracketed h.plain (by decide) _).gives
        ((misses_bracketed h.plain (by decide) _).gives ?_))))
    rw [valueAt, hat.1]
    dsimp only
    rw [if_neg (by rw [hstring]; nofun)]
    split
    · rename_i hdots
      exact goes_tokenOf hat hdots _
    · rename_i hdots
      exact misses_tokenOf hat (Bool.eq_false_iff.2 hdots) _

theorem misses_generatorExpression (h : S.Plain pos) : S.Misses (generatorExpression self) pos :=
  misses_orElse
    (misses_form (misses_append (misses_append (misses_append (h.sym (by decide))))))
    (misses_orElse misses_explaining (misses_orElse misses_explaining misses_explaining))

theorem gives_primaryRule (h : S.Lone pos) (hatom : S.Gives (self .atom) pos (valueAt S.tokens pos))
    (hgenerator : ∀ i, S.Plain i → S.Misses (self .generator) i) :
    S.Gives (primaryRule self) pos (valueAt S.tokens pos) := by
  refine hatom.extend fun f pos' hvalue => ?_
  have hnext := h.next_plain hvalue
  have hmark {s : String} (hs : s ≠ "...") : S.Misses (pure f ++ sym s) pos' :=
    (goes_pure f).misses_append (hnext.sym hs)
  exact misses_orElse (misses_form (misses_append (hmark (by decide))))
    (misses_orElse (misses_form ((goes_pure f).misses_append (hgenerator pos' hnext)))
      (misses_orElse (misses_form (misses_append (misses_append (hmark (by decide)))))
        (misses_form (misses_append (misses_append (hmark (by decide)))))))

theorem gives_awaitPrimaryRule (h : S.Lone pos)
    (hprimary : S.Gives (self .primary) pos (valueAt S.tokens pos)) :
    S.Gives (awaitPrimaryRule self) pos (valueAt S.tokens pos) :=
  Misses.gives (misses_form (misses_append (h.plain.sym (by decide)))) hprimary

theorem gives_power (h : S.Lone pos)
    (hprimary : S.Gives (self .awaitPrimary) pos (valueAt S.tokens pos)) :
    S.Gives (power self) pos (valueAt S.tokens pos) := by
  refine Misses.gives (misses_form (misses_append ?_)) hprimary
  exact hprimary.misses_append fun f pos' hvalue => (h.next_plain hvalue).sym (by decide)

theorem gives_factorRule (h : S.Lone pos)
    (hprimary : S.Gives (self .awaitPrimary) pos (valueAt S.tokens pos)) :
    S.Gives (factorRule self) pos (valueAt S.tokens pos) :=
  Misses.gives (misses_form (misses_append (h.plain.anySym (by decide)))) (gives_power h hprimary)

theorem gives_chain (h : S.Lone pos) {ops : List String} (hops : "..." ∉ ops) {operand : Rule}
    (hoperand : S.Gives (self operand) pos (valueAt S.tokens pos)) :
    S.Gives (chain self ops operand) pos (valueAt S.tokens pos) := by
  refine hoperand.extend fun f pos' hvalue => misses_form (misses_append ?_)
  exact (goes_pure f).misses_append ((h.next_plain hvalue).anySym hops)

theorem Gives.more {p q : Reader Forest} {r : Option (Forest × Nat)} (hp : S.Gives p pos r)
    (hq : ∀ f pos', r = some (f, pos') → S.Misses q pos') (k : Form) :
    S.Gives (do
      let a ← p
      let more ← many q
      return if more.isEmpty then a else Tree.close (.form k) (a ++ more)) pos r := by
  cases r with
  | none => exact misses_bind hp
  | some r => exact hp.bind ((goes_many (hq r.1 r.2 rfl)).bind (goes_pure r.1))

theorem gives_comparison (h : S.Lone pos)
    (hoperand : S.Gives (self .bitwiseOr) pos (valueAt S.tokens pos)) :
    S.Gives (comparison self) pos (valueAt S.tokens pos) := by
  refine hoperand.more (fun f pos' hvalue => misses_append ?_) _
  have hnext := h.next_plain hvalue
  exact misses_orElse (hnext.anySym (by decide))
    (misses_orElse (misses_append (hnext.sym (by decide)))
      (misses_orElse (hnext.sym (by decide))
        (misses_orElse (misses_append (hnext.sym (by decide))) (hnext.sym (by decide)))))

theorem gives_inversionRule (h : S.Lone pos)
    (hoperand : S.Gives (self .bitwiseOr) pos (valueAt S.tokens pos)) :
    S.Gives (inversionRule self) pos (valueAt S.tokens pos) :=
  Misses.gives (misses_form (misses_append (h.plain.sym (by decide)))) (gives_comparison h hoperand)

theorem gives_joined (h : S.Lone pos) {op : String} (hop : op ≠ "...") {operand : Rule}
    (hoperand : S.Gives (self operand) pos (valueAt S.tokens pos)) :
    S.Gives (joined self op operand) pos (valueAt S.tokens pos) :=
  hoperand.more (fun _ _ hvalue => misses_append ((h.next_plain hvalue).sym hop)) _

theorem gives_expressionRule (h : S.Lone pos)
    (hoperand : S.Gives (self .disjunction) pos (valueAt S.tokens pos)) :
    S.Gives (expressionRule self) pos (valueAt S.tokens pos) := by
  have hconditional : S.Misses (conditional self) pos := by
    refine misses_form (misses_append (misses_append (misses_append ?_)))
    exact hoperand.misses_append fun _ _ hvalue => (h.next_plain hvalue).sym (by decide)
  have hlambda : S.Misses (lambda self) pos :=
    misses_form (misses_append (misses_append (misses_append (h.plain.sym (by decide)))))
  exact Misses.gives misses_explaining (Misses.gives misses_explaining
    (hconditional.gives (hoperand.orElse fun _ => hlambda)))

theorem gives_starExpressionRule (h : S.Lone pos)
    (hoperand : S.Gives (self .expression) pos (valueAt S.tokens pos)) :
    S.Gives (starExpressionRule self) pos (valueAt S.tokens pos) :=
  Misses.gives (misses_form (misses_append (h.plain.sym (by decide)))) hoperand

theorem gives_listed (h : S.Lone pos) {item : Reader Forest}
    (hitem : S.Gives item pos (valueAt S.tokens pos)) :
    S.Gives (listed item) pos (valueAt S.tokens pos) := by
  have hcomma : S.Misses (item ++ sym ",") pos :=
    hitem.misses_append fun _ _ hvalue => (h.next_plain hvalue).sym (by decide)
  have hmore : S.Misses (item ++ many1 (sym "," ++ item)) pos :=
    hitem.misses_append fun _ _ hvalue =>
      misses_many1 (misses_append ((h.next_plain hvalue).sym (by decide)))
  exact Misses.gives (misses_form (misses_append hmore)) (Misses.gives (misses_form hcomma) hitem)

/-! ### Rules for targets -/

theorem misses_targetPrimaryRule (h : S.Lone pos)
    (hatom : S.Gives (self .atom) pos (valueAt S.tokens pos)) :
    S.Misses (targetPrimaryRule self) pos := by
  refine misses_extend (hatom.misses_append fun f pos' hvalue => ?_)
  exact misses_ahead ((h.next_plain hvalue).anySym (by decide))

theorem misses_subscriptAttributeTarget (hprimary : S.Misses (self .targetPrimary) pos) :
    S.Misses (subscriptAttributeTarget self) pos :=
  misses_orElse
    (misses_append (misses_form (misses_append (misses_append hprimary))))
    (misses_append (misses_form (misses_append (misses_append (misses_append hprimary)))))

theorem misses_starAtom (h : S.Plain pos) : S.Misses (starAtom self) pos := by
  refine misses_orElse (h.name _) (misses_orElse ?_ (misses_orElse ?_ ?_))
  all_goals exact misses_form (misses_append (misses_append (h.sym (by decide))))

theorem misses_targetWithStarAtomRule (h : S.Plain pos)
    (hprimary : S.Misses (self .targetPrimary) pos) :
    S.Misses (targetWithStarAtomRule self) pos :=
  misses_orElse (misses_subscriptAttributeTarget hprimary) (misses_starAtom h)

theorem misses_starTargetRule (h : S.Plain pos)
    (hatom : S.Misses (self .targetWithStarAtom) pos) : S.Misses (starTargetRule self) pos :=
  misses_orElse (misses_form (misses_append (misses_append (h.sym (by decide))))) hatom

theorem misses_starTargetsRule (htarget : S.Misses (self .starTarget) pos) :
    S.Misses (starTargetsRule self) pos :=
  misses_orElse (misses_append htarget) (misses_form (misses_append (misses_append htarget)))

theorem misses_singleTargetRule (h : S.Plain pos)
    (hprimary : S.Misses (self .targetPrimary) pos) : S.Misses (singleTargetRule self) pos :=
  misses_orElse (misses_subscriptAttributeTarget hprimary)
    (misses_orElse (h.name _) (misses_form (misses_append (misses_append (h.sym (by decide))))))

/-! ### Statements -/

/-- The rules that a statement is begun with, at a value that stands by itself. -/
structure ReadsLone (S : Setting) (rules : Rule → Reader Forest) (pos : Nat) : Prop where
  value : S.Gives (rules .starExpressions) pos (valueAt S.tokens pos)
  primary : S.Misses (rules .targetPrimary) pos
  targets : S.Misses (rules .starTargets) pos
  target : S.Misses (rules .singleTarget) pos

theorem misses_assignment (h : S.Plain pos) (hself : S.ReadsLone self pos) :
    S.Misses (assignment self) pos := by
  have hname : S.Misses (name (.form .variable) ++ sym ":" ++ self .expression ++
      opt (sym "=" ++ annotatedValue self)) pos :=
    misses_append (misses_append (misses_append (h.name _)))
  have htarget : S.Misses ((sym "(" ++ self .singleTarget ++ sym ")") <|>
      subscriptAttributeTarget self) pos :=
    misses_orElse (misses_append (misses_append (h.sym (by decide))))
      (misses_subscriptAttributeTarget hself.primary)
  have hexplain : S.Misses (explainAssignment self) pos :=
    misses_orElse misses_explaining (misses_orElse misses_explaining
      (misses_orElse misses_explaining misses_explaining))
  refine misses_orElse (misses_node hname) (misses_orElse ?_ (misses_orElse ?_ ?_))
  · exact misses_node (misses_append (misses_append (misses_append htarget)))
  · exact misses_node (misses_append (misses_append (misses_many1 (misses_append hself.targets))))
  · exact misses_commit (misses_append hself.target) hexplain

theorem misses_keyed (h : S.Plain pos) (hs : s ≠ "...") (p : Reader Forest) :
    S.Misses (keyed s p) pos :=
  misses_bracketed h hs _

theorem gives_simpleStatementRule (h : S.Plain pos) (hself : S.ReadsLone self pos) :
    S.Gives (simpleStatementRule self) pos (valueAt S.tokens pos) := by
  refine (misses_assignment h hself).gives (hself.value.orElse fun _ => ?_)
  have himport : S.Misses (ahead (anySym ["import", "from"]) ++
      node .item (importName <|> importFrom)) pos :=
    misses_append (misses_ahead (h.anySym (by decide)))
  have hword {s : String} (hs : s ≠ "...") : S.Misses (node .item (sym s)) pos :=
    misses_node (h.sym hs)
  refine misses_orElse (misses_keyed h (by decide) _) (misses_orElse himport
    (misses_orElse (misses_keyed h (by decide) _) (misses_orElse (hword (by decide))
    (misses_orElse (misses_keyed h (by decide) _) (misses_orElse (misses_bracketed h (by decide) _)
    (misses_orElse (misses_keyed h (by decide) _) (misses_orElse (hword (by decide))
    (misses_orElse (hword (by decide)) (misses_orElse (misses_keyed h (by decide) _)
    (misses_keyed h (by decide) _))))))))))

theorem misses_compoundStatement (h : S.Plain pos) : S.Misses (compoundStatement self) pos := by
  have hhead {ss : List String} (hss : "..." ∉ ss) (p : Reader Forest) :
      S.Misses (ahead (anySym ss) ++ p) pos :=
    misses_append (misses_ahead (h.anySym hss))
  have hmatch : S.Misses (matchStatement self) pos := by
    refine misses_orElse ?_ (misses_orElse misses_explaining misses_explaining)
    iterate 6 refine misses_append ?_
    exact h.word _
  exact misses_orElse (hhead (by decide) _) (misses_orElse (misses_keyed h (by decide) _)
    (misses_orElse (hhead (by decide) _) (misses_orElse (hhead (by decide) _)
    (misses_orElse (hhead (by decide) _) (misses_orElse (misses_keyed h (by decide) _)
    (misses_orElse (misses_keyed h (by decide) _) (misses_node hmatch)))))))

/-! ### Running the rules -/

variable {rule : Rule} {fuel : Nat} {r : Option (Forest × Nat)}

theorem gives_run_of (hrule : rule.isRemembered = false)
    (h : S.Gives (step (run S.names fuel) rule) pos r) : S.Gives (run S.names (fuel + 1) rule) pos r :=
  h.run fun hremembered => absurd hremembered (by rw [hrule]; nofun)

namespace IsLone

theorem gives_run (hS : S.IsLone) (hrule : rule.isValue = true)
    (h : S.Gives (step (run S.names fuel) rule) pos (valueAt S.tokens pos)) :
    S.Gives (run S.names (fuel + 1) rule) pos (valueAt S.tokens pos) :=
  h.run fun _ => (hS pos rule (by rintro rfl; cases hrule)).trans (if_pos hrule)

theorem misses_run (hS : S.IsLone) (hrule : rule.isValue = false) (hblock : rule ≠ .block)
    (h : S.Misses (step (run S.names fuel) rule) pos) :
    S.Misses (run S.names (fuel + 1) rule) pos :=
  Gives.run (r := none) h fun _ => (hS pos rule hblock).trans (if_neg (by rw [hrule]; nofun))

theorem gives_atom (hS : S.IsLone) (h : S.Lone pos) (fuel : Nat) :
    S.Gives (run S.names (fuel + 2) .atom) pos (valueAt S.tokens pos) := by
  refine gives_run_of rfl (Setting.gives_atom h fun t hat hstring => ?_)
  refine hS.gives_run rfl ?_
  have hvalue : valueAt S.tokens pos =
      some (Tree.close (.form .string) (leaves .token t), pos + 1) := by
    rw [valueAt, hat.1]
    exact if_pos hstring
  obtain ⟨t', hat', ht', hnewline⟩ := h.next _ _ hvalue
  have hnext : t'.isString = false := by
    unfold Token.isNewline at hnewline
    unfold Token.isString
    cases hkind : t'.kind <;> simp_all
  rw [hvalue]
  exact goes_stringLiterals hat hstring (h.string t hat hstring) hat' hnext

theorem gives_starExpressions (hS : S.IsLone) (h : S.Lone pos) (fuel : Nat) :
    S.Gives (run S.names (fuel + 17) .starExpressions) pos (valueAt S.tokens pos) := by
  -- from the inside to the outside, one rule for each level of operators
  have hprimary : S.Gives (run S.names (fuel + 3) .primary) pos (valueAt S.tokens pos) :=
    hS.gives_run rfl (gives_primaryRule h (hS.gives_atom h fuel) fun i hi =>
      hS.misses_run rfl nofun (misses_generatorExpression hi))
  have hawait : S.Gives (run S.names (fuel + 4) .awaitPrimary) pos (valueAt S.tokens pos) :=
    hS.gives_run rfl (gives_awaitPrimaryRule h hprimary)
  have hfactor : S.Gives (run S.names (fuel + 5) .factor) pos (valueAt S.tokens pos) :=
    hS.gives_run rfl (gives_factorRule h hawait)
  have hterm : S.Gives (run S.names (fuel + 6) .term) pos (valueAt S.tokens pos) :=
    hS.gives_run rfl (gives_chain h (by decide) hfactor)
  have hsum : S.Gives (run S.names (fuel + 7) .sum) pos (valueAt S.tokens pos) :=
    hS.gives_run rfl (gives_chain h (by decide) hterm)
  have hshift : S.Gives (run S.names (fuel + 8) .shift) pos (valueAt S.tokens pos) :=
    hS.gives_run rfl (gives_chain h (by decide) hsum)
  have hand : S.Gives (run S.names (fuel + 9) .bitwiseAnd) pos (valueAt S.tokens pos) :=
    hS.gives_run rfl (gives_chain h (by decide) hshift)
  have hxor : S.Gives (run S.names (fuel + 10) .bitwiseXor) pos (valueAt S.tokens pos) :=
    hS.gives_run rfl (gives_chain h (by decide) hand)
  have hor : S.Gives (run S.names (fuel + 11) .bitwiseOr) pos (valueAt S.tokens pos) :=
    hS.gives_run rfl (gives_chain h (by decide) hxor)
  have hinversion : S.Gives (run S.names (fuel + 12) .inversion) pos (valueAt S.tokens pos) :=
    hS.gives_run rfl (gives_inversionRule h hor)
  have hconjunction : S.Gives (run S.names (fuel + 13) .conjunction) pos (valueAt S.tokens pos) :=
    hS.gives_run rfl (gives_joined h (by decide) hinversion)
  have hdisjunction : S.Gives (run S.names (fuel + 14) .disjunction) pos (valueAt S.tokens pos) :=
    hS.gives_run rfl (gives_joined h (by decide) hconjunction)
  have hexpression : S.Gives (run S.names (fuel + 15) .expression) pos (valueAt S.tokens pos) :=
    hS.gives_run rfl (gives_expressionRule h hdisjunction)
  have hstar : S.Gives (run S.names (fuel + 16) .starExpression) pos (valueAt S.tokens pos) :=
    hS.gives_run rfl (gives_starExpressionRule h hexpression)
  exact gives_run_of rfl (gives_listed h hstar)

theorem misses_targetPrimary (hS : S.IsLone) (h : S.Lone pos) (fuel : Nat) :
    S.Misses (run S.names (fuel + 3) .targetPrimary) pos :=
  hS.misses_run rfl nofun (misses_targetPrimaryRule h (hS.gives_atom h fuel))

theorem misses_starTargets (hS : S.IsLone) (h : S.Lone pos) (fuel : Nat) :
    S.Misses (run S.names (fuel + 6) .starTargets) pos := by
  have hatom : S.Misses (run S.names (fuel + 4) .targetWithStarAtom) pos :=
    hS.misses_run rfl nofun
      (misses_targetWithStarAtomRule h.plain (hS.misses_targetPrimary h fuel))
  have htarget : S.Misses (run S.names (fuel + 5) .starTarget) pos :=
    hS.misses_run rfl nofun (misses_starTargetRule h.plain hatom)
  exact hS.misses_run rfl nofun (misses_starTargetsRule htarget)

theorem gives_simpleStatement (hS : S.IsLone) (h : S.Lone pos) (fuel : Nat) :
    S.Gives (run S.names (fuel + 18) .simpleStatement) pos (valueAt S.tokens pos) := by
  refine hS.gives_run rfl (gives_simpleStatementRule h.plain ⟨?_, ?_, ?_, ?_⟩)
  · exact hS.gives_starExpressions h fuel
  · exact hS.misses_targetPrimary h (fuel + 14)
  · exact hS.misses_starTargets h (fuel + 11)
  · exact hS.misses_run rfl nofun
      (misses_singleTargetRule h.plain (hS.misses_targetPrimary h (fuel + 13)))

end IsLone

end Setting

end Docent.Indented
