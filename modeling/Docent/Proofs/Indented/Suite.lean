import Docent.Proofs.Indented.Cut
import Docent.Proofs.Indented.Lone

/-!
# Definitions whose suite is a string and three dots

How classes and methods are read whose suite holds nothing but a documentation string, if that, and
three dots.
-/

namespace Docent.Indented

open Reader

/-! ### Tokens told by shape -/

namespace Setting

variable {S : Setting} {pos pos' : Nat} {u : Token} {s : String} {ss : List String}
  {self : Rule → Reader Forest}

/-- A token of a shape stands at a position. -/
def Shows (S : Setting) (pos : Nat) (u : Token) : Prop := ∃ t, S.At pos t ∧ t.shape = u

namespace Shows

theorem misses_sym (h : S.Shows pos u) (hs : u.isSymbol s = false) : S.Misses (sym s) pos := by
  obtain ⟨t, hat, rfl⟩ := h
  exact misses_tokenOf hat hs _

theorem misses_anySym (h : S.Shows pos u) (hss : ss.any (Token.isSymbol · u) = false) :
    S.Misses (anySym ss) pos := by
  obtain ⟨t, hat, rfl⟩ := h
  exact misses_tokenOf hat hss _

theorem misses_name (h : S.Shows pos u) (hu : u.isName = false) (k : Kind) :
    S.Misses (name k) pos := by
  obtain ⟨t, hat, rfl⟩ := h
  exact misses_tokenOf hat hu k

theorem goes_sym (h : S.Shows pos u) (hs : u.isSymbol s = true) :
    S.Goes (sym s) pos (leaves .token u) (pos + 1) := by
  obtain ⟨t, hat, rfl⟩ := h
  exact goes_tokenOf hat hs _

theorem goes_anySym (h : S.Shows pos u) (hss : ss.any (Token.isSymbol · u) = true) :
    S.Goes (anySym ss) pos (leaves .token u) (pos + 1) := by
  obtain ⟨t, hat, rfl⟩ := h
  exact goes_tokenOf hat hss _

theorem goes_need (h : S.Shows pos u) (hs : u.isSymbol s = true) :
    S.Goes (need s) pos (leaves .token u) (pos + 1) := by
  obtain ⟨t, hat, rfl⟩ := h
  exact Setting.goes_need hat hs

theorem goes_name (h : S.Shows pos u) (hu : u.isName = true) (k : Kind) :
    S.Goes (name k) pos (leaves k u) (pos + 1) := by
  obtain ⟨t, hat, rfl⟩ := h
  exact goes_tokenOf hat hu k

theorem goes_newline (h : S.Shows pos u) (hu : u.isNewline = true) :
    S.Goes newline pos (leaves .blank u) (pos + 1) := by
  obtain ⟨t, hat, rfl⟩ := h
  exact goes_tokenOf hat hu _

theorem goes_indent (h : S.Shows pos u) (hu : u.isIndent = true) :
    S.Goes indent pos (leaves .blank u) (pos + 1) := by
  obtain ⟨t, hat, rfl⟩ := h
  exact goes_tokenOf hat hu _

theorem goes_dedent (h : S.Shows pos u) (hu : u.isDedent = true) :
    S.Goes dedent pos (leaves .blank u) (pos + 1) := by
  obtain ⟨t, hat, rfl⟩ := h
  exact goes_tokenOf hat hu _

theorem goes_finish (h : S.Shows pos u) (hu : u.isFinish = true) :
    S.Goes finish pos (leaves .blank u) (pos + 1) := by
  obtain ⟨t, hat, rfl⟩ := h
  exact goes_tokenOf hat hu _

theorem plain (h : S.Shows pos u) (hu : u.IsPlain) : S.Plain pos := by
  obtain ⟨t, hat, rfl⟩ := h
  exact ⟨t, hat, hu.name, hu.number, hu.symbol⟩

end Shows

/-! ### The heads of definitions -/

theorem misses_decorators (h : S.Shows pos u) (hu : u.isSymbol "@" = false) :
    S.Misses (decorators self) pos :=
  misses_many1 (misses_node (misses_append (misses_append (h.misses_sym hu))))

/-- The head of a class, as it is read. -/
def classHead (name : List Char) : Forest :=
  [.leaf .token "class".toList, .leaf .blank [' '], .leaf .name name, .leaf .token [':']]

theorem goes_class {name : List Char} {b : Forest} (hname : name ≠ [])
    (h₀ : S.Shows pos (Token.shown .keyword [] "class".toList))
    (h₁ : S.Shows (pos + 1) (Token.shown .name [' '] name))
    (h₂ : S.Shows (pos + 2) (Token.shown .mark [] [':']))
    (hblock : S.Goes (self .block) (pos + 3) b pos') :
    S.Goes (compoundStatement self) pos [.node .classDecl (classHead name ++ b)] pos' := by
  have hbases : S.Goes (baseClasses self) (pos + 2) [] (pos + 2) :=
    goes_opt (misses_append (misses_append (h₂.misses_sym rfl)))
  have hleaves : leaves .name (Token.shown .name [' '] name) =
      [.leaf .blank [' '], .leaf .name name] := by
    simp [leaves, Token.shown, hname]
  have hraw : S.Goes (rawClass self) pos (classHead name ++ b) pos' := by
    have hread := ((((h₀.goes_sym (s := "class") rfl).append (h₁.goes_name rfl .name)).append
      hbases).append (h₂.goes_sym (s := ":") rfl)).append hblock
    rw [hleaves] at hread
    exact misses_explaining.orElse (misses_explaining.orElse hread)
  have hdefinition : S.Goes (classDefinition self) pos [.node .classDecl (classHead name ++ b)] pos' :=
    (misses_node (misses_append (misses_decorators h₀ rfl))).orElse (hraw.node .classDecl)
  exact (misses_append (misses_ahead (h₀.misses_anySym rfl))).orElse
    ((misses_append (misses_ahead (h₀.misses_sym rfl))).orElse
      ((h₀.goes_anySym rfl).ahead.append hdefinition).orElse)

/-- The head of a method without parameters of its own, as it is read. -/
def methodHead (name : List Char) : Forest :=
  [.leaf .token "def".toList, .leaf .blank [' '], .leaf .name name, .leaf .token ['('],
    .leaf .token "self".toList, .leaf .token [')'], .leaf .token [':']]

section Parameters

variable (h₀ : S.Shows pos (Token.shown .name [] "self".toList))
  (h₁ : S.Shows (pos + 1) (Token.shown .mark [] [')']))
include h₁

theorem misses_paramNoDefault : S.Misses (paramNoDefault self functionStyle) (pos + 1) :=
  misses_append (misses_append (h₁.misses_name rfl _))

theorem misses_paramWithDefault : S.Misses (paramWithDefault self functionStyle) (pos + 1) :=
  misses_append (misses_append (misses_append (h₁.misses_name rfl _)))

theorem misses_starEtc : S.Misses (starEtc self functionStyle) (pos + 1) := by
  have hexplain : S.Misses (explainStar self functionStyle) (pos + 1) :=
    misses_orElse misses_explaining (misses_orElse misses_explaining misses_explaining)
  have hstar : S.Misses (sym "*") (pos + 1) := h₁.misses_sym rfl
  have hdouble : S.Misses (doubleStar self functionStyle) (pos + 1) :=
    misses_orElse
      (misses_orElse misses_explaining (misses_orElse misses_explaining misses_explaining))
      (misses_append (h₁.misses_sym rfl))
  exact misses_orElse hexplain
    (misses_orElse (misses_append (misses_append (misses_append hstar)))
      (misses_orElse (misses_append (misses_append (misses_append hstar)))
        (misses_orElse (misses_append (misses_append (misses_append hstar))) hdouble)))

include h₀

theorem goes_selfParameter :
    S.Goes (paramNoDefault self functionStyle) pos [.leaf .token "self".toList] (pos + 1) := by
  have hparam : S.Goes (param self functionStyle) pos [.leaf .token "self".toList] (pos + 1) :=
    (h₀.goes_name rfl .token).append (goes_opt (misses_append (h₁.misses_sym rfl)))
  have hend : S.Goes (paramEnd functionStyle) (pos + 1) [] (pos + 1) :=
    (h₁.misses_sym rfl).orElse (h₁.goes_sym rfl).ahead
  exact hparam.append hend

theorem goes_selfParameters :
    S.Goes (parameters self functionStyle) pos [.leaf .token "self".toList] (pos + 1) := by
  have hself : S.Goes (paramNoDefault self functionStyle) pos _ _ := goes_selfParameter h₀ h₁
  have hno : S.Misses (paramNoDefault self functionStyle) _ := misses_paramNoDefault h₁
  have hdefault : S.Misses (paramWithDefault self functionStyle) _ := misses_paramWithDefault h₁
  have hstar : S.Misses (starEtc self functionStyle) _ := misses_starEtc h₁
  have hexplain : S.Misses (explainParameters self functionStyle) pos :=
    misses_orElse misses_explaining (misses_orElse misses_explaining (misses_orElse misses_explaining
      (misses_orElse misses_explaining (misses_orElse misses_explaining misses_explaining))))
  have hslash : S.Misses (slash functionStyle) (pos + 1) :=
    misses_orElse (misses_append (h₁.misses_sym rfl)) (misses_append (h₁.misses_sym rfl))
  have hmany1 : S.Goes (many1 (paramNoDefault self functionStyle)) pos
      [.leaf .token "self".toList] (pos + 1) := hself.append (goes_many hno)
  have hslashNo : S.Misses (slashNoDefault self functionStyle) pos :=
    hmany1.misses_append hslash
  have hslashWith : S.Misses (slashWithDefault self functionStyle) pos := by
    have hsize : pos + 1 ≤ S.tokens.size := by
      obtain ⟨t, hat, -⟩ := h₀
      exact (Array.getElem?_eq_some_iff.1 hat.1).1
    have hmany := (Repeats.turn pos (pos + 1) (pos + 1) _ _ hself (Nat.lt_succ_self _) hsize
      (.stop _ hno)).goes_many
    exact misses_append (hmany.misses_append (misses_many1 hdefault))
  have hplain := (hmany1.append (goes_many hdefault)).append (goes_opt hstar)
  exact hexplain.orElse ((misses_append (misses_append (misses_append hslashNo))).orElse
    ((misses_append (misses_append hslashWith)).orElse hplain.orElse))

end Parameters

theorem goes_method {name : List Char} {b : Forest} (hname : name ≠ [])
    (h₀ : S.Shows pos (Token.shown .keyword [] "def".toList))
    (h₁ : S.Shows (pos + 1) (Token.shown .name [' '] name))
    (h₂ : S.Shows (pos + 2) (Token.shown .mark [] ['(']))
    (h₃ : S.Shows (pos + 3) (Token.shown .name [] "self".toList))
    (h₄ : S.Shows (pos + 4) (Token.shown .mark [] [')']))
    (h₅ : S.Shows (pos + 5) (Token.shown .mark [] [':']))
    (hblock : S.Goes (self .block) (pos + 6) b pos') :
    S.Goes (compoundStatement self) pos [.node .method (methodHead name ++ b)] pos' := by
  have hleaves : leaves .name (Token.shown .name [' '] name) =
      [.leaf .blank [' '], .leaf .name name] := by
    simp [leaves, Token.shown, hname]
  have hreturned : S.Goes (opt (sym "->" ++ self .expression)) (pos + 5) [] (pos + 5) :=
    goes_opt (misses_append (h₅.misses_sym rfl))
  have hparameters : S.Goes (opt (parameters self functionStyle)) (pos + 3)
      [.leaf .token "self".toList] (pos + 4) := (goes_selfParameters h₃ h₄).orElse
  have hread := (((((((h₀.goes_sym (s := "def") rfl).append (h₁.goes_name rfl .name)).append
    (h₂.goes_need (s := "(") rfl)).append hparameters).append
      (h₄.goes_sym (s := ")") rfl)).append hreturned).append (h₅.goes_need (s := ":") rfl)).append
        hblock
  rw [hleaves] at hread
  have hraw : S.Goes (rawFunction self) pos (methodHead name ++ b) pos' :=
    misses_explaining.orElse hread.orElse
  have hdefinition : S.Goes (functionDefinition self) pos [.node .method (methodHead name ++ b)] pos' :=
    (misses_node (misses_append (misses_decorators h₀ rfl))).orElse (hraw.node .method)
  exact ((h₀.goes_anySym rfl).ahead.append hdefinition).orElse

/-! ### Suites of values -/

/-- Tokens of these shapes stand from a position on. -/
def ShowsAll (S : Setting) : Nat → List Token → Prop
  | _, [] => True
  | pos, u :: us => S.Shows pos u ∧ S.ShowsAll (pos + 1) us

theorem showsAll_append {us vs : List Token} : {pos : Nat} → S.ShowsAll pos (us ++ vs) →
    S.ShowsAll pos us ∧ S.ShowsAll (pos + us.length) vs := by
  induction us with
  | nil => exact fun h => ⟨trivial, h⟩
  | cons u us ih =>
    intro pos h
    obtain ⟨hu, h⟩ := h
    obtain ⟨hus, hvs⟩ := ih h
    refine ⟨⟨hu, hus⟩, ?_⟩
    rwa [List.length_cons, Nat.add_comm us.length 1, ← Nat.add_assoc]

theorem valueAt_of_shows (h : S.Shows pos u) : valueAt S.tokens pos =
    if u.isString then some (Tree.close (.form .string) (leaves .token u), pos + 1)
    else if u.isSymbol "..." then some (leaves (.form .ellipsis) u, pos + 1)
    else none := by
  obtain ⟨t, hat, rfl⟩ := h
  rw [valueAt, hat.1]
  rfl

/-- The shape of a line end right after a token. -/
def lineEnd : Token := Token.shown .newline [] ['\n']

theorem isPlain_of_kind (hname : u.isName = false) (hnumber : u.isNumber = false)
    (hsymbol : u.kind = .mark → u.symbol = "...") (hkeyword : u.kind ≠ .keyword) : u.IsPlain where
  name := hname
  number := hnumber
  symbol s hs := by
    rw [Token.isSymbol]
    cases hkind : u.kind with
    | mark => exact beq_false_of_ne (by rw [hsymbol hkind]; exact hs.symm)
    | keyword => exact absurd hkind hkeyword
    | _ => rfl

theorem isPlain_lineEnd : lineEnd.IsPlain :=
  isPlain_of_kind rfl rfl (by rintro ⟨⟩) (by rintro ⟨⟩)

theorem lone_of_value (h : S.Shows pos u) (hu : u.IsPlain)
    (hstring : u.isString = true → u.HasValue S.names) (hnext : S.Shows (pos + 1) lineEnd) :
    S.Lone pos where
  plain := h.plain hu
  string t hat htstring := by
    obtain ⟨t', hat', rfl⟩ := h
    obtain rfl : t' = t := Option.some.inj (hat'.1.symm.trans hat.1)
    obtain ⟨htext, hbytes, hformatted, hvalue⟩ := hstring htstring
    exact ⟨htext, hbytes, hformatted, hvalue⟩
  next f pos' hvalue := by
    have hpos : pos' = pos + 1 := by
      rw [valueAt_of_shows h] at hvalue
      split_ifs at hvalue
      all_goals exact (Prod.mk.inj (Option.some.inj hvalue)).2.symm
    obtain ⟨t, hat, ht⟩ := hnext
    subst hpos
    have hplain := isPlain_lineEnd
    rw [← ht] at hplain
    refine ⟨t, hat, ⟨hplain.name, hplain.number, hplain.symbol⟩, ?_⟩
    show t.shape.isNewline = true
    rw [ht]
    rfl

theorem lone_of_no_value (h : S.Shows pos u) (hu : u.IsPlain) (hstring : u.isString = false)
    (hdots : u.isSymbol "..." = false) : S.Lone pos ∧ valueAt S.tokens pos = none := by
  have hno : valueAt S.tokens pos = none := by
    rw [valueAt_of_shows h, hstring, hdots]
    rfl
  refine ⟨⟨h.plain hu, fun t hat ht => ?_, fun f pos' hvalue => ?_⟩, hno⟩
  · obtain ⟨t', hat', rfl⟩ := h
    obtain rfl : t' = t := Option.some.inj (hat'.1.symm.trans hat.1)
    exact absurd ht (by rw [show t'.isString = false from hstring]; exact Bool.false_ne_true)
  · rw [hno] at hvalue
    cases hvalue

def statement (self : Rule → Reader Forest) : Reader Forest :=
  compoundStatement self <|> simpleStatements self

theorem goes_statement {f : Forest} (hS : S.IsLone) (hlone : S.Lone pos)
    (hvalue : valueAt S.tokens pos = some (f, pos + 1)) (hnext : S.Shows (pos + 1) lineEnd)
    (fuel : Nat) :
    S.Goes (statement (run S.names (fuel + 18))) pos (f ++ [.leaf .blank ['\n']]) (pos + 2) := by
  have hsimple := hS.gives_simpleStatement hlone fuel
  rw [hvalue] at hsimple
  have hread := (Goes.append hsimple (goes_absent (hnext.misses_sym (s := ";") rfl))).append
    (hnext.goes_newline rfl)
  rw [List.append_nil] at hread
  exact (misses_compoundStatement hlone.plain).orElse hread.orElse

theorem misses_statement (hS : S.IsLone) (hlone : S.Lone pos)
    (hvalue : valueAt S.tokens pos = none) (fuel : Nat) :
    S.Misses (statement (run S.names (fuel + 18))) pos := by
  have hsimple := hS.gives_simpleStatement hlone fuel
  rw [hvalue] at hsimple
  have hmiss : S.Misses (run S.names (fuel + 18) .simpleStatement) pos := hsimple
  exact misses_orElse (misses_compoundStatement hlone.plain)
    (misses_orElse (misses_append (misses_append hmiss))
      (misses_append (misses_append (misses_sepBy hmiss))))

def dots : List Char := ['.', '.', '.']

/-- The tokens of a suite, from its indentation on. -/
def suiteTokens (blanks : List Char) : Option (List Char) → List Token
  | none => [.shown .indent blanks [], .shown .mark [] dots, lineEnd, .shown .dedent [] []]
  | some d => [.shown .indent blanks [], .shown .string [] (tripled d), lineEnd,
      .shown .mark ('\n' :: blanks) dots, lineEnd, .shown .dedent [] []]

/-- The statements of a suite, as they are read. -/
def suiteBody (blanks : List Char) : Option (List Char) → Forest
  | none => [.leaf (.form .ellipsis) dots, .leaf .blank ['\n']]
  | some d => [.node (.form .string) [.leaf .token (tripled d)], .leaf .blank ['\n'],
      .leaf .blank ('\n' :: blanks), .leaf (.form .ellipsis) dots, .leaf .blank ['\n']]

variable {blanks : List Char} {doc : Option (List Char)}

theorem isPlain_dots (lead : List Char) : (Token.shown .mark lead dots).IsPlain :=
  isPlain_of_kind rfl rfl (fun _ => rfl) (by rintro ⟨⟩)

theorem isPlain_dedent : (Token.shown .dedent [] []).IsPlain :=
  isPlain_of_kind rfl rfl (by rintro ⟨⟩) (by rintro ⟨⟩)

theorem goes_dots {lead : List Char} (hS : S.IsLone) (h₀ : S.Shows pos (.shown .mark lead dots))
    (h₁ : S.Shows (pos + 1) lineEnd) (h₂ : S.Shows (pos + 2) (.shown .dedent [] [])) (fuel : Nat) :
    S.Goes (statement (run S.names (fuel + 18))) pos
        (leaves (.form .ellipsis) (.shown .mark lead dots) ++ [.leaf .blank ['\n']]) (pos + 2) ∧
      S.Misses (statement (run S.names (fuel + 18))) (pos + 2) := by
  obtain ⟨hlone, hno⟩ := lone_of_no_value h₂ isPlain_dedent rfl rfl
  have hdots := lone_of_value h₀ (isPlain_dots lead) (by rintro ⟨⟩) h₁
  exact ⟨goes_statement hS hdots (valueAt_of_shows h₀) h₁ fuel, misses_statement hS hlone hno fuel⟩

theorem goes_statements (hS : S.IsLone) (h : S.ShowsAll pos (suiteTokens blanks doc))
    (hdoc : ∀ d ∈ doc, (Token.shown .string [] (tripled d)).HasValue S.names) (fuel : Nat) :
    S.Goes (run S.names (fuel + 19) .statements) (pos + 1) (suiteBody blanks doc)
      (pos + (suiteTokens blanks doc).length - 1) := by
  refine gives_run_of (r := some (_, _)) rfl ?_
  cases doc with
  | none =>
    obtain ⟨-, h₁, h₂, h₃, -⟩ := h
    obtain ⟨hdots, hend⟩ := goes_dots hS h₁ h₂ h₃ fuel
    exact hdots.append (goes_many hend)
  | some d =>
    obtain ⟨-, h₁, h₂, h₃, h₄, h₅, -⟩ := h
    obtain ⟨hdots, hend⟩ := goes_dots hS h₃ h₄ h₅ fuel
    have hstring := lone_of_value h₁ (isPlain_of_kind rfl rfl (by rintro ⟨⟩) (by rintro ⟨⟩))
      (fun _ => hdoc d rfl) h₂
    have hfirst := goes_statement hS hstring (valueAt_of_shows h₁) h₂ fuel
    have hsize : pos + 1 + 2 + 2 ≤ S.tokens.size := by
      obtain ⟨t, hat, -⟩ := h₄
      exact (Array.getElem?_eq_some_iff.1 hat.1).1
    exact hfirst.append (Repeats.turn _ _ _ _ _ hdots (by omega) hsize (.stop _ hend)).goes_many

/-- A suite, as it is read from the end of the line of its head on. -/
def suiteForest (blanks : List Char) (doc : Option (List Char)) : Forest :=
  [.leaf .blank ['\n'], .leaf .blank blanks, .node .body (suiteBody blanks doc)]

theorem goes_block (hS : S.IsLone) (hblanks : blanks ≠ []) (h₀ : S.Shows pos lineEnd)
    (h : S.ShowsAll (pos + 1) (suiteTokens blanks doc))
    (hdoc : ∀ d ∈ doc, (Token.shown .string [] (tripled d)).HasValue S.names) (fuel : Nat)
    (htable : S.table pos .block =
      some (suiteForest blanks doc, pos + 1 + (suiteTokens blanks doc).length)) :
    S.Goes (run S.names (fuel + 20) .block) pos (suiteForest blanks doc)
      (pos + 1 + (suiteTokens blanks doc).length) := by
  refine Gives.run (r := some (_, _)) ?_ fun _ => htable
  have hstatements := goes_statements hS h hdoc fuel
  have hends : S.Shows (pos + 1) (.shown .indent blanks []) ∧
      S.Shows (pos + 1 + (suiteTokens blanks doc).length - 1) (.shown .dedent [] []) := by
    cases doc with
    | none =>
      obtain ⟨hfirst, -, -, hlast, -⟩ := h
      exact ⟨hfirst, hlast⟩
    | some d =>
      obtain ⟨hfirst, -, -, -, -, hlast, -⟩ := h
      exact ⟨hfirst, hlast⟩
  have hread := (((h₀.goes_newline rfl).append (hends.1.goes_indent rfl)).append hstatements).append
    (hends.2.goes_dedent rfl)
  have hforest : Tree.close .body (leaves .blank lineEnd ++ leaves .blank (.shown .indent blanks []) ++
      suiteBody blanks doc ++ leaves .blank (.shown .dedent [] [])) = suiteForest blanks doc := by
    cases doc <;>
      simp [leaves, lineEnd, Token.shown, hblanks, suiteBody, suiteForest, Tree.close]
  have hlength : pos + 1 + (suiteTokens blanks doc).length - 1 + 1 =
      pos + 1 + (suiteTokens blanks doc).length := by omega
  have hnode := hread.node .body
  rw [hforest, hlength] at hnode
  exact hnode.orElse

end Setting

end Docent.Indented
