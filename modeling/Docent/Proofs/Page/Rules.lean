import Docent.Proofs.Page.Built

/-!
# The rules build pages

Every rule of the grammar builds what it reads, whatever readers it is given for the rules it is
built from, as long as they do so too. Classes, methods and namespaces are the constructs that have
names; the first name in each of them is its own.
-/

-- a rule is put together from more readers than instances are put together from by default
set_option synthInstance.maxSize 1000

namespace Docent.Page

open Scan Scan.Reader Scan.Law

variable {p : Part}

/-! ### Words and names -/

instance builds_word (s : String) : Builds [] (word s) := keeps_tokenOf
instance builds_anyWord (ss : List String) : Builds [] (anyWord ss) := keeps_tokenOf
instance builds_named {k : Kind} [IsPlain k] : Builds [] (named k) := keeps_tokenOf
instance builds_path : Builds [] path := by unfold path; infer_instance
instance builds_qualified : Builds [] qualified := by unfold qualified; infer_instance
instance builds_looseList [Builds [] p] : Builds [] (looseList p) := by
  unfold looseList; infer_instance
instance builds_commaList [Builds [] p] : Builds [] (commaList p) := by
  unfold commaList; infer_instance

theorem reads_beforePassage : law.Reads beforePassage (· = []) := by
  intro p m hp hm
  change law.realm.LeadsTo _ (beforePassage gaps p m)
  rw [beforePassage]
  split
  · exact ⟨hp, hm, rfl⟩
  · exact hm

theorem covers_beforePassage : law.Covers [] beforePassage := by
  intro cs p m hp hm
  change (law.realmOf cs).LeadsTo _ (beforePassage gaps p m)
  rw [beforePassage]
  split
  · exact ⟨hp, hm, rfl⟩
  · exact hm

instance builds_beforePassage : Builds [] beforePassage :=
  .of_nil (reads_beforePassage.mono fun _ hf => hf ▸ fits_allBuilt.nil) covers_beforePassage

instance builds_semicolon : Builds [] semicolon := by unfold semicolon; infer_instance
instance builds_colon : Builds [] colon := keeps_symBut _ _

/-! ### Rules inside rules -/

/-- Readers for the rules: they build what they read, without names in attributes and blocks. -/
class Runs (rules : Rule → Part) : Prop where
  builds : ∀ r, Builds [] (rules r)
  nameless : ∀ r, r = .block ∨ r = .attributes → law.Keeps Nameless [] (rules r)

variable (self : Rule → Part) [hself : Runs self]

instance builds_self (r : Rule) : Builds [] (self r) := hself.builds r
instance nameless_block : law.Keeps Nameless [] (self .block) := hself.nameless _ (.inl rfl)
instance nameless_attributes : law.Keeps Nameless [] (self .attributes) :=
  hself.nameless _ (.inr rfl)

/-! ### Types, attributes and parameters -/

instance builds_typeRule : Builds [] (typeRule self) := by unfold typeRule; infer_instance
instance builds_attributesRule : Builds [] (attributesRule self) := by
  unfold attributesRule; infer_instance
instance builds_variableName : Builds [] variableName := by unfold variableName; infer_instance
instance builds_initial : Builds [] (initial self) := by unfold initial; infer_instance
instance builds_accessWord : Builds [] accessWord := by unfold accessWord; infer_instance
instance builds_hooks : Builds [] (hooks self) := by unfold hooks; infer_instance
instance builds_parameter : Builds [] (parameter self) := by unfold parameter; infer_instance
instance builds_parametersRule : Builds [] (parametersRule self) := by
  unfold parametersRule; infer_instance
instance builds_resultType : Builds [] (resultType self) := by unfold resultType; infer_instance
instance builds_argumentsRule : Builds [] (argumentsRule self) := by
  unfold argumentsRule; infer_instance

/-! ### Literals -/

instance builds_replacedString (q : Char) (start : Shape) :
    Builds [] (replacedString self q start) := by
  unfold replacedString; infer_instance
instance builds_element : Builds [] (element self) := by unfold element; infer_instance
instance builds_literalRule : Builds [] (literalRule self) := by unfold literalRule; infer_instance

/-! ### Functions and classes inside expressions -/

instance builds_closure : Builds [] (closure self) := by unfold closure; infer_instance
instance builds_ancestry : Builds [] ancestry := by unfold ancestry; infer_instance
instance builds_namelessClass : Builds [] (namelessClass self) := by
  unfold namelessClass; infer_instance

/-! ### Chains -/

instance builds_memberName : Builds [] (memberName self) := by unfold memberName; infer_instance
instance builds_variable : Builds [] (variable' self) := by unfold variable'; infer_instance
instance builds_created : Builds [] (created self) := by unfold created; infer_instance
instance builds_primary : Builds [] (primary self) := by unfold primary; infer_instance
instance builds_chainStep (f : Forest) : Builds f (chainStep self f) := by
  unfold chainStep; infer_instance
instance builds_chainRule : Builds [] (chainRule self) := by unfold chainRule; infer_instance

/-! ### Operands -/

instance builds_assignment : Builds [] (assignment self) := by
  unfold assignment
  apply +allowSynthFailures keeps_bind
  intro f
  dsimp only
  split <;> infer_instance
instance builds_operandRule : Builds [] (operandRule self) := by unfold operandRule; infer_instance
instance builds_expressionRule : Builds [] (expressionRule self) := by
  unfold expressionRule; infer_instance

/-! ### Members -/

theorem nameless_word (s : String) : law.Keeps Nameless [] (word s) := keeps_tokenOf
theorem nameless_anyWord (ss : List String) : law.Keeps Nameless [] (anyWord ss) := keeps_tokenOf

instance builds_memberWord : Builds [] memberWord := by unfold memberWord; infer_instance
instance builds_constants : Builds [] (constants self) := by unfold constants; infer_instance
instance nameless_memberWord : law.Keeps Nameless [] memberWord := by
  have hword := nameless_word
  have hany := nameless_anyWord
  unfold memberWord accessWord
  infer_instance

theorem reads_name : law.Reads (named .name) (Named IsWord) :=
  reads_named fun _ _ _ _ hgap hsplit => isWord_of_gaps hgap (Shape.eq_length_of_split? hsplit)

theorem reads_functionHead (kind : Kind) [IsPlain kind] :
    Builds [] (functionHead self kind) ∧
      (kind = .name → law.Reads (functionHead self kind) (Named IsWord)) := by
  have hfunction := nameless_word "function"
  refine ⟨by unfold functionHead; infer_instance, ?_⟩
  rintro rfl
  have hparameters : Builds [] (self .parameters) := inferInstance
  have hresult : Builds [] (opt (resultType self)) := inferInstance
  have hhead : law.Keeps Nameless [] (word "function" ++ opt (sym "&")) := inferInstance
  exact .named_append_left (.named_append_left
    (.named_append_right hhead.reads_nil reads_name) hparameters.reads) hresult.reads

instance builds_functionHead (kind : Kind) [IsPlain kind] : Builds [] (functionHead self kind) :=
  (reads_functionHead self kind).1

instance builds_method : Builds [] (method self) := by
  have hparts : law.Keeps Nameless [] (opt (self .attributes) ++ many memberWord) := inferInstance
  have hend : Builds [] (self .block <|> semicolon) := inferInstance
  unfold method
  exact builds_called (.inr rfl) (.named_append_left
    (.named_append_right hparts.reads_nil ((reads_functionHead self .name).2 rfl)) hend.reads)

instance builds_property : Builds [] (property self) := by unfold property; infer_instance
instance builds_constantMember : Builds [] (constantMember self) := by
  unfold constantMember; infer_instance
instance builds_usedMembers : Builds [] usedMembers := by unfold usedMembers; infer_instance
instance builds_enumCase : Builds [] (enumCase self) := by unfold enumCase; infer_instance
instance builds_classMember : Builds [] (classMember self) := by unfold classMember; infer_instance
instance builds_classBodyRule : Builds [] (classBodyRule self) := by
  unfold classBodyRule; infer_instance

/-! ### Declarations -/

instance builds_classDeclaration : Builds [] (classDeclaration self) := by
  have hclass := nameless_word "class"
  have hwords := nameless_anyWord classWords
  have hhead : law.Keeps Nameless []
    (opt (self .attributes) ++ many (anyWord classWords) ++ word "class") := inferInstance
  have hancestry : Builds [] ancestry := inferInstance
  have hbody : Builds [] (self .classBody) := inferInstance
  unfold classDeclaration
  exact builds_called (.inl rfl) (.named_append_left (.named_append_left
    (.named_append_right hhead.reads_nil reads_name) hancestry.reads) hbody.reads)

instance builds_otherDeclaration : Builds [] (otherDeclaration self) := by
  unfold otherDeclaration; infer_instance
instance builds_functionDeclaration : Builds [] (functionDeclaration self) := by
  unfold functionDeclaration; infer_instance

theorem reads_path : law.Reads path fun f => ∃ raw rest g h, f = g ++ h ∧ gaps raw = (g, rest) ∧
    IsPath h := by
  have hword := steps_tokenOf (L := law) wordShape .item
  have hmark := steps_tokenOf (L := law) (.exactly "\\") .token
  have hturn : law.Steps (sym "\\" ++ named .item) fun p f p' => ∃ rest word cs,
      gaps p.raw = (p.gap, '\\' :: rest) ∧ gaps rest = (word, cs ++ p'.raw) ∧
        wordShape (cs ++ p'.raw) = some cs.length ∧
        f = p.gap ++ .leaf .token ['\\'] :: (word ++ [.leaf .item cs]) := by
    refine .append hmark hword ?_
    rintro p _ p' _ p'' hp hp' ⟨mark, rfl, hrest, hshape⟩ ⟨cs, rfl, hrest', hshape'⟩
    obtain rfl := Shape.eq_of_split?_exactly (Shape.split?_append hshape)
    refine ⟨p'.raw, p'.gap, cs, ?_, ?_, hshape', by simp⟩
    · rw [← List.singleton_append]
      exact hrest ▸ hp
    · exact hrest' ▸ hp'
  have hrest : law.Steps (many (sym "\\" ++ named .item)) fun p f _ => PathRest p.raw f := by
    refine .many hturn (fun p => .nil p.raw) ?_
    rintro p _ p' g - hp ⟨rest, word, cs, hmark, hword, hshape, rfl⟩ hg
    rw [List.append_assoc, List.cons_append, List.append_assoc, List.singleton_append]
    exact .cons hmark hword hshape hg
  have hpath : law.Steps path fun p f _ => ∃ h, f = p.gap ++ h ∧ IsPath h := by
    refine .append hword hrest ?_
    rintro p _ p' r - hp - ⟨cs, rfl, hcs, hshape⟩ hr
    have hgap : gaps p.raw = (p.gap, cs ++ p'.raw) := hcs ▸ hp
    exact ⟨.leaf .item cs :: r, by rw [List.append_assoc, List.singleton_append], cs, p'.raw, r, rfl,
      isWord_of_gaps hgap hshape, hshape, hr⟩
  exact .of_steps hpath fun p f p' hp ⟨h, hf, hpath⟩ => ⟨p.raw, p.rest, p.gap, h, hf, hp, hpath⟩

instance builds_namespaceDeclaration : Builds [] (namespaceDeclaration self) := by
  have hkeyword := nameless_word "namespace"
  have hblock : law.Keeps Nameless [] (self .block) := inferInstance
  have hend : Builds [] (self .block <|> semicolon) := inferInstance
  have hname : law.Reads (node .name path) Spaced := by
    refine .map reads_path ?_
    rintro f ⟨raw, rest, g, h, rfl, hgap, hpath⟩
    have hloose (u : Tree) (hu : u ∈ g) : u.isLoose = true :=
      law.loose raw u (by rw [show law.gaps raw = (g, rest) from hgap]; exact hu)
    obtain ⟨cs, tail, r, rfl, -⟩ := id hpath
    rw [Tree.close_append hloose rfl]
    exact ⟨g, _, [], rfl, fits_nameless.gap (L := law) hgap, _, rfl, hpath⟩
  have hcalled : law.Reads (node .name path ++ (self .block <|> semicolon)) Spaced :=
    .append hname hend.reads fun _ g hf _ => hf.append_left g
  have hrest : law.Reads ((node .name path ++ (self .block <|> semicolon)) <|> self .block)
      fun f => Nameless f ∨ Spaced f :=
    .orElse (hcalled.mono fun _ => .inr) (hblock.reads_nil.mono fun _ => .inl)
  unfold namespaceDeclaration
  refine builds_space (.append hkeyword.reads_nil hrest fun f g hf hg => ?_)
  exact hg.imp (fun hg => (fits_nameless (L := law)).append.2 ⟨hf, hg⟩) fun hg => hg.append_right hf

instance builds_importDeclaration : Builds [] importDeclaration := by
  unfold importDeclaration; infer_instance

/-! ### Statements -/

instance builds_condition : Builds [] (condition self) := by unfold condition; infer_instance
instance builds_expressions : Builds [] (expressions self) := by unfold expressions; infer_instance
instance builds_untilWord (s : String) : Builds [] (untilWord self s) := by
  unfold untilWord; infer_instance
instance builds_ifStatement : Builds [] (ifStatement self) := by unfold ifStatement; infer_instance
instance builds_loopStatement : Builds [] (loopStatement self) := by
  unfold loopStatement; infer_instance
instance builds_switchStatement : Builds [] (switchStatement self) := by
  unfold switchStatement; infer_instance
instance builds_tryStatement : Builds [] (tryStatement self) := by
  unfold tryStatement; infer_instance
instance builds_declareStatement : Builds [] (declareStatement self) := by
  unfold declareStatement; infer_instance
instance builds_keywordStatement : Builds [] (keywordStatement self) := by
  unfold keywordStatement; infer_instance
instance builds_blockRule : Builds [] (blockRule self) := by unfold blockRule; infer_instance
instance builds_statementRule : Builds [] (statementRule self) := by
  unfold statementRule; infer_instance

/-! ### All rules -/

instance builds_step (r : Rule) : Builds [] (step self r) := by
  cases r <;> (unfold step; infer_instance)

/-- What a rule gives is built, if the readers for the rules it is built from build what they
read. -/
theorem reads_step (r : Rule) : law.Reads (step self r) (IsResult r) := by
  have hbuilds := builds_step self r
  have hnameless (h : r = .block ∨ r = .attributes) : law.Reads (step self r) Nameless := by
    rcases h with rfl | rfl
    · have hblock : law.Keeps Nameless [] (step self .block) := by
        unfold step blockRule; exact nameless_node (by rintro ⟨⟩)
      exact hblock.reads_nil
    · have hitem : law.Keeps Nameless [] (step self .attributes) := by
        unfold step attributesRule
        have hnode {p : Part} [Builds [] p] : law.Keeps Nameless [] (node .item p) :=
          nameless_node (by rintro ⟨⟩)
        infer_instance
      exact hitem.reads_nil
  by_cases h : r = .block ∨ r = .attributes
  · exact (hbuilds.reads_nil.and (hnameless h)).mono fun f hf => ⟨hf.1, fun _ => hf.2⟩
  · exact hbuilds.reads_nil.mono fun f hf => ⟨hf, fun h' => absurd h' h⟩

theorem runs_of_reads {rules : Rule → Part} (h : ∀ r, law.Reads (rules r) (IsResult r))
    (hc : ∀ r, law.Covers [] (rules r)) : Runs rules where
  builds r := .of_nil ((h r).mono fun _ hf => hf.built) (hc r)
  nameless r hr := .of_nil ((h r).mono fun _ hf => hf.nameless hr) (hc r)

instance runs_run (fuel : Nat) : Runs (run fuel) := by
  -- the fuel is the depth to which rules stand in rules
  induction fuel with
  | zero => exact runs_of_reads (fun _ => .fail) fun _ => .fail
  | succ fuel ih =>
    exact runs_of_reads (fun r => .remembered (reads_step (run fuel) r))
      fun r => .remembered (builds_step (run fuel) r).covers

instance builds_wholePage : Builds [] (wholePage self) := by unfold wholePage; infer_instance

/-- The tree of a page has the text of the page. -/
theorem text_of_parse {cs : List Char} {t : Tree} (h : parse cs = .ok t) : t.text = cs := by
  have hbuilds : Builds [] (rawTokenOf passage .passage ++
      many (run (depthBound cs.length) .statement)) := inferInstance
  exact Law.text_of_whole hbuilds.covers h

/-- The tree of a page is built as pages are. -/
theorem isBuilt_of_parse {cs : List Char} {t : Tree} (h : parse cs = .ok t) :
    ∀ u ∈ t.preorder, IsBuilt u := by
  have hbuilds : Builds [] (wholePage (run (depthBound cs.length))) := inferInstance
  obtain ⟨f, rfl, hbuilt⟩ := Law.of_whole hbuilds.reads_nil h
  rw [Tree.preorder]
  exact List.forall_mem_cons.2 ⟨isPlain_item.built _ rfl, hbuilt⟩

end Docent.Page
