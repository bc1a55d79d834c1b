import Docent.Proofs.Script.Keeping

/-!
# The rules keep decorators in their place

Every rule of the grammar keeps every level, whatever readers it is given for the rules it is built
from, as long as they do so too. Declarations are read as statements only. What a rule reads that
decorators stand in is a node around them; the parts of a method and of the body of a class are
where scripts with and without types differ. What stands before a class in a construct around its
declaration is read word by word.
-/

-- a rule is put together from more readers than instances are put together from by default
set_option synthInstance.maxSize 1000

namespace Docent.Script

open Scan Scan.Reader Scan.Law

variable {d : Dialect} {ℓ : Level} {p : Part}

/-! ### Words and ends of statements -/

instance keeps_word (s : String) : Keeps d ℓ [] (word s) := keeps_tokenOf

instance keeps_anyWord (ss : List String) : Keeps d ℓ [] (anyWord ss) := by
  induction ss with
  | nil => exact keeps_fail
  | cons s ss ih => exact keeps_orElse

instance keeps_named {k : Kind} [IsPlain k] : Keeps d ℓ [] (named k) := keeps_tokenOf
instance keeps_name {k : Kind} [IsPlain k] : Keeps d ℓ [] (d.name k) := keeps_tokenOf
instance keeps_stringPart : Keeps d ℓ [] stringPart := keeps_tokenOf
instance keeps_semicolon (operand : Bool) : Keeps d ℓ [] (semicolon d operand) := by
  unfold semicolon; infer_instance
instance keeps_goesOn (breaks operand : Bool) : Keeps d ℓ [] (goesOn d breaks operand) := by
  unfold goesOn; infer_instance
instance stays_goesOn (breaks operand : Bool) : Stays (goesOn d breaks operand) := by
  unfold goesOn; infer_instance
instance keeps_leadWord (breaks : Bool) (s : String) : Keeps d ℓ [] (leadWord d breaks s) := by
  unfold leadWord; infer_instance
instance keeps_looseList [Keeps d ℓ [] p] : Keeps d ℓ [] (looseList p) := by
  unfold looseList; infer_instance
instance keeps_commaList [Keeps d ℓ [] p] : Keeps d ℓ [] (commaList p) := by
  unfold commaList; infer_instance

/-! ### Nodes that decorators and declarations are -/

/-- What may stand in the body of a class. -/
def Level.inBody (d : Dialect) : Level := if d.types then decorated else plain

def Level.inMethod (d : Dialect) : Level := if d.types then plain else decorated

theorem Level.Holds.not_decorator {d : Dialect} {f : Forest} (h : plain.Holds d f) :
    ∀ t ∈ f, t.kind ≠ .decorator :=
  fun t ht => (h.2 t ht).1

instance keeps_body [hp : Keeps d (.inBody d) [] p] : Keeps d ℓ [] (node .body p) := by
  refine .of_nil (.map hp.reads_nil fun f hf => hf.close ?_) (hp.covers.node .body)
  rintro us vs rfl -
  refine ⟨⟨nofun, fun _ htypes => ?_, nofun, nofun, nofun, nofun, nofun, nofun, nofun, nofun, nofun⟩,
    Level.admits_node nofun rfl rfl⟩
  rw [Level.inBody, htypes] at hf
  exact (Level.holds_append.1 hf).2.not_decorator

instance keeps_method [hp : Keeps d (.inMethod d) [] p] [hfull : Fills d p] :
    Keeps d ℓ [] (node .method p) := by
  refine .of_nil (.map (hp.reads_nil.and hfull.reads) fun f hf => hf.1.close ?_)
    (hp.covers.node .method)
  rintro us vs rfl hus
  obtain ⟨hholds, hfilled⟩ := hf
  have hparts := (Level.holds_append.1 hholds).2
  refine ⟨⟨nofun, nofun, fun _ htypes => ?_, fun _ u hu => ?_, fun _ => hfilled.parts hus,
    nofun, nofun, nofun, nofun, nofun, nofun⟩, Level.admits_node nofun rfl rfl⟩
  · rw [Level.inMethod, htypes] at hparts
    exact Level.Holds.not_decorator hparts
  · have hu := hparts.2 u hu
    unfold Level.inMethod at hu
    split at hu
    · exact (Bool.or_eq_false_iff.1 hu.2).1
    · exact (Bool.or_eq_false_iff.1 hu).1

theorem keeps_declaring {k : Kind} (hk : k.declares = true)
    (habstract : k = .abstractClassDecl → d.types = true) (hspace : k ≠ .namespaceDecl)
    [hp : Keeps d .all [] p]
    (hcalled : ∀ shape, className? d k = some shape → Reads d p (Named shape.Takes))
    (hexports : k = .exportDecl → Reads d p (Leads Exports)) :
    Keeps d .all [] (node k p) := by
  have hclosed (us vs : Forest) (hus : ∀ u ∈ us, u.kind.isOutside = true)
      (hname : ∀ shape, className? d k = some shape → Named shape.Takes (us ++ vs))
      (hleads : k = .exportDecl → Leads Exports (us ++ vs)) :
      IsBuilt d (.node k vs) ∧ Level.all.Admits (.node k vs) :=
    ⟨isBuilt_of_declares hk habstract (fun shape hshape => (hname shape hshape).part? hus) hspace
      fun hk' => (hleads hk').parts hus, trivial⟩
  by_cases hexport : k = .exportDecl
  · refine .of_nil (.map (hp.reads_nil.and (hexports hexport)) fun f hf => hf.1.close ?_)
      (hp.covers.node k)
    rintro us vs rfl hus
    exact hclosed us vs hus (by rw [hexport]; nofun) fun _ => hf.2
  cases hshape : className? d k with
  | none =>
    refine .of_nil (.map hp.reads_nil fun f hf => hf.close ?_) (hp.covers.node k)
    rintro us vs rfl hus
    exact hclosed us vs hus (by rw [hshape]; nofun) (absurd · hexport)
  | some shape =>
    refine .of_nil (.map (hp.reads_nil.and (hcalled shape hshape)) fun f hf => hf.1.close ?_)
      (hp.covers.node k)
    rintro us vs rfl hus
    refine hclosed us vs hus (fun shape' h => ?_) (absurd · hexport)
    rw [hshape] at h
    exact Option.some.inj h ▸ hf.2

/-- The levels on which decorators may stand. -/
class Decorates (ℓ : Level) : Prop where
  admits : ∀ vs, ℓ.Admits (.node .decorator vs)

instance decorates_decorated : Decorates .decorated := ⟨fun _ => rfl⟩
instance decorates_all : Decorates .all := ⟨fun _ => trivial⟩

theorem keeps_decorating [hℓ : Decorates ℓ] [hp : Keeps d .all [] p] :
    Keeps d ℓ [] (node .decorator p) :=
  .of_nil (.map hp.reads_nil fun _ hf => hf.close fun _ vs _ _ =>
    ⟨⟨nofun, nofun, nofun, nofun, nofun, nofun, nofun, nofun, nofun, nofun, nofun⟩,
      hℓ.admits vs⟩) (hp.covers.node .decorator)

/-! ### Types -/

/-- The rules that read no declaration. -/
class IsPart (r : Rule) : Prop where
  ne_statement : r ≠ .statement

instance isPart_block (b : Bool) : IsPart (.block b) := ⟨nofun⟩
instance isPart_classBody : IsPart .classBody := ⟨nofun⟩
instance isPart_sequence (c : Context) : IsPart (.sequence c) := ⟨nofun⟩
instance isPart_expression (c : Context) : IsPart (.expression c) := ⟨nofun⟩
instance isPart_operand (c : Context) : IsPart (.operand c) := ⟨nofun⟩
instance isPart_leftSide (c : Context) : IsPart (.leftSide c) := ⟨nofun⟩
instance isPart_destructuring : IsPart .destructuring := ⟨nofun⟩
instance isPart_target : IsPart .target := ⟨nofun⟩
instance isPart_parameters : IsPart .parameters := ⟨nofun⟩
instance isPart_signature (b r : Bool) : IsPart (.signature b r) := ⟨nofun⟩
instance isPart_type (b : Bool) : IsPart (.type b) := ⟨nofun⟩
instance isPart_typeArguments : IsPart .typeArguments := ⟨nofun⟩
instance isPart_typeParameters : IsPart .typeParameters := ⟨nofun⟩
instance isPart_objectType : IsPart .objectType := ⟨nofun⟩
instance isPart_propertyName : IsPart .propertyName := ⟨nofun⟩
instance isPart_template : IsPart .template := ⟨nofun⟩
instance isPart_markup : IsPart .markup := ⟨nofun⟩

/-- Readers for the rules: declarations are read as statements only, and blocks are not empty. -/
class Runs (d : Dialect) (rules : Rule → Part) : Prop where
  inner : ∀ (ℓ : Level) (r : Rule), r ≠ .statement → Keeps d ℓ [] (rules r)
  statement : Keeps d .all [] (rules .statement)
  whole : ∀ r : Rule, r.isWhole = true → (law d).Keeps Tokenless [] (rules r)
  block : ∀ operand, Fills d (rules (.block operand))

variable (self : Rule → Part) [hself : Runs d self]

instance (priority := low) keeps_self (r : Rule) [hr : IsPart r] : Keeps d ℓ [] (self r) :=
  hself.inner ℓ r hr.ne_statement

instance keeps_statement : Keeps d .all [] (self .statement) := hself.statement

instance fills_block (operand : Bool) : Fills d (self (.block operand)) := hself.block operand

instance keeps_memberAhead : Keeps d ℓ [] memberAhead := by unfold memberAhead; infer_instance
instance keeps_modifier (b : Bool) (s : String) : Keeps d ℓ [] (modifier d b s) := by
  unfold modifier; infer_instance
instance keeps_starModifier (b : Bool) (s : String) : Keeps d ℓ [] (starModifier d b s) := by
  unfold starModifier; infer_instance
instance keeps_anyModifier (b : Bool) (ss : List String) : Keeps d ℓ [] (anyModifier d b ss) := by
  induction ss with
  | nil => exact keeps_fail
  | cons s ss ih => exact keeps_orElse
instance keeps_anyStarModifier (b : Bool) (ss : List String) :
    Keeps d ℓ [] (anyStarModifier d b ss) := by
  induction ss with
  | nil => exact keeps_fail
  | cons s ss ih => exact keeps_orElse
instance keeps_typeMark (b : Bool) : Keeps d ℓ [] (typeMark self b) := by
  unfold typeMark; infer_instance
instance keeps_predicate (b : Bool) : Keeps d ℓ [] (predicate self b) := by
  unfold predicate; infer_instance
instance keeps_resultType (b : Bool) : Keeps d ℓ [] (resultType d self b) := by
  unfold resultType; infer_instance
instance keeps_signatureRule (b r : Bool) : Keeps d ℓ [] (signatureRule d self b r) := by
  unfold signatureRule; infer_instance
instance keeps_dottedNames : Keeps d ℓ [] dottedNames := by unfold dottedNames; infer_instance
instance keeps_typeArgumentsRule : Keeps d ℓ [] (typeArgumentsRule self) := by
  unfold typeArgumentsRule; infer_instance
instance keeps_typeParametersRule : Keeps d ℓ [] (typeParametersRule self) := by
  unfold typeParametersRule; infer_instance
instance keeps_typeMember : Keeps d ℓ [] (typeMember d self) := by
  unfold typeMember; infer_instance
instance keeps_objectTypeRule : Keeps d ℓ [] (objectTypeRule d self) := by
  unfold objectTypeRule; infer_instance
instance keeps_tupleMember : Keeps d ℓ [] (tupleMember self) := by
  unfold tupleMember; infer_instance
instance keeps_templateType : Keeps d ℓ [] (templateType self) := by
  unfold templateType; infer_instance
instance keeps_queried : Keeps d ℓ [] (queried self) := by unfold queried; infer_instance
instance keeps_typeOperand (b : Bool) : Keeps d ℓ [] (typeOperand d self b) := by
  unfold typeOperand; infer_instance
instance keeps_typeTail (b : Bool) : Keeps d ℓ [] (typeTail d self b) := by
  unfold typeTail; infer_instance
instance keeps_typeRule (b : Bool) : Keeps d ℓ [] (typeRule d self b) := by
  unfold typeRule; infer_instance

/-! ### Markup -/

instance keeps_embedded : Keeps d ℓ [] (embedded self) := by unfold embedded; infer_instance
instance keeps_elementName : Keeps d ℓ [] elementName := by unfold elementName; infer_instance
instance keeps_markupAttribute : Keeps d ℓ [] (markupAttribute self) := by
  unfold markupAttribute; infer_instance
instance keeps_child : Keeps d ℓ [] (child self) := by unfold child; infer_instance
instance keeps_children : Keeps d ℓ [] (children self) := by unfold children; infer_instance
instance keeps_markupRule : Keeps d ℓ [] (markupRule d self) := by unfold markupRule; infer_instance

/-! ### Parameters and patterns -/

instance keeps_propertyNameRule : Keeps d ℓ [] (propertyNameRule self) := by
  have hname : Keeps d ℓ [] (node .name (sym "[" ++ self (.expression .inner) ++ sym "]")) :=
    keeps_nameNode (opensBracket_append (opensBracket_append opensBracket_sym))
      (endsSolid_append (endsSolid_sym (by decide)))
  unfold propertyNameRule
  infer_instance
instance keeps_initial (c : Context) : Keeps d ℓ [] (initial self c) := by
  unfold initial; infer_instance
instance keeps_restTarget : Keeps d ℓ [] (restTarget self) := by unfold restTarget; infer_instance
instance keeps_destructuringRule : Keeps d ℓ [] (destructuringRule d self) := by
  unfold destructuringRule; infer_instance
instance keeps_continuation : Keeps d ℓ [] continuation := by unfold continuation; infer_instance
instance keeps_targetRule : Keeps d ℓ [] (targetRule self) := by unfold targetRule; infer_instance
instance keeps_methodPart (b : Bool) : Keeps d ℓ [] (methodPart d self b) := by
  unfold methodPart; infer_instance
instance keeps_decorator [Decorates ℓ] : Keeps d ℓ [] (decorator d self) := by
  unfold decorator; exact keeps_decorating
instance keeps_parameter : Keeps d ℓ [] (parameter d self) := by unfold parameter; infer_instance
instance keeps_parametersRule : Keeps d ℓ [] (parametersRule d self) := by
  unfold parametersRule; infer_instance

/-! ### Functions and classes -/

instance keeps_asyncWord (c : Context) : Keeps d ℓ [] (asyncWord d c) := by
  unfold asyncWord; infer_instance
instance keeps_arrowFunction (c : Context) : Keeps d ℓ [] (arrowFunction d self c) := by
  unfold arrowFunction; infer_instance
instance keeps_functionExpression (c : Context) : Keeps d ℓ [] (functionExpression d self c) := by
  unfold functionExpression; infer_instance
instance keeps_classRest : Keeps d ℓ [] (classRest d self) := by unfold classRest; infer_instance
instance keeps_className : Keeps d ℓ [] (className d) := by unfold className; infer_instance
instance keeps_classExpression : Keeps d ℓ [] (classExpression d self) := by
  unfold classExpression; infer_instance

/-! ### Operands -/

instance keeps_arguments : Keeps d ℓ [] (arguments self) := by unfold arguments; infer_instance
instance keeps_templateRule : Keeps d ℓ [] (templateRule self) := by
  unfold templateRule; infer_instance
instance fills_methodPart (b : Bool) : Fills d (methodPart d self b) := by
  unfold methodPart; infer_instance
instance keeps_objectMember : Keeps d ℓ [] (objectMember d self) := by
  unfold objectMember; infer_instance
instance keeps_bracketed : Keeps d ℓ [] (bracketed d self) := by unfold bracketed; infer_instance
instance keeps_operandAhead : Keeps d ℓ [] operandAhead := by unfold operandAhead; infer_instance
instance keeps_primary (c : Context) : Keeps d ℓ [] (primary d self c) := by
  unfold primary; infer_instance
instance keeps_leftStep (c : Context) (f : Forest) : Keeps d ℓ f (leftStep d self c f) := by
  unfold leftStep; infer_instance
instance keeps_leftSideRule (c : Context) : Keeps d ℓ [] (leftSideRule d self c) := by
  unfold leftSideRule; infer_instance
instance keeps_assignment (c : Context) : Keeps d ℓ [] (assignment self c) := by
  unfold assignment; infer_instance
instance keeps_operandRule (c : Context) : Keeps d ℓ [] (operandRule d self c) := by
  unfold operandRule; infer_instance

/-! ### Expressions -/

instance keeps_questionMark : Keeps d ℓ [] questionMark := by unfold questionMark; infer_instance
instance keeps_expressionTail (c : Context) : Keeps d ℓ [] (expressionTail d self c) := by
  unfold expressionTail; infer_instance
instance keeps_expressionRule (c : Context) : Keeps d ℓ [] (expressionRule d self c) := by
  unfold expressionRule; infer_instance
instance keeps_sequenceRule (c : Context) : Keeps d ℓ [] (sequenceRule d self c) := by
  unfold sequenceRule; infer_instance

/-! ### Bodies of classes -/

instance keeps_blockRule (b : Bool) : Keeps d ℓ [] (blockRule d self b) := by
  have hopen : Begins d (sym "\x7b") := begins_sym (by decide)
  unfold blockRule
  infer_instance
instance fills_blockRule (b : Bool) : Fills d (blockRule d self b) := by
  have hopen : Fills d (sym "\x7b") := fills_sym (by decide)
  unfold blockRule
  have hmore : Fills d (sym "\x7b" ++ many (self .statement)) := fills_append_left
  have hclosed : Fills d (sym "\x7b" ++ many (self .statement) ++ sym "\x7d") := fills_append_left
  have hall : Fills d (sym "\x7b" ++ many (self .statement) ++ sym "\x7d" ++
    opt (leftOut d ⟨b, false⟩)) := fills_append_left
  exact fills_node rfl
instance keeps_fieldWords : Keeps d ℓ [] (fieldWords d) := by unfold fieldWords; infer_instance
instance keeps_brokenGetter : Keeps d ℓ [] brokenGetter := by unfold brokenGetter; infer_instance
instance keeps_field (value : Part) [Keeps d .decorated [] value] :
    Keeps d ℓ [] (field d self value) := by
  unfold field; infer_instance

instance keeps_methodMember : Keeps d (.inBody d) [] (methodMember d self) := by
  unfold methodMember
  cases htypes : d.types with
  | true =>
    have hbody : Level.inBody d = .decorated := by rw [Level.inBody, htypes]; rfl
    rw [hbody]
    dsimp only
    rw [if_pos rfl]
    infer_instance
  | false =>
    have hmethod : Level.inMethod d = .decorated := by rw [Level.inMethod, htypes]; rfl
    dsimp only
    rw [if_neg (by decide)]
    have hparts : Keeps d (.inMethod d) [] (many (decorator d self)) := by
      rw [hmethod]
      infer_instance
    infer_instance

instance keeps_methodSignature : Keeps d ℓ [] (methodSignature d self) := by
  unfold methodSignature; infer_instance
instance keeps_abstractSignature : Keeps d ℓ [] (abstractSignature d self) := by
  unfold abstractSignature; infer_instance
instance keeps_indexSignature : Keeps d ℓ [] (indexSignature self) := by
  unfold indexSignature; infer_instance
instance keeps_classMember : Keeps d (.inBody d) [] (classMember d self) := by
  unfold classMember; infer_instance
instance keeps_classBodyRule : Keeps d ℓ [] (classBodyRule d self) := by
  unfold classBodyRule; infer_instance

/-! ### Declarations -/

instance nameless_word (s : String) : (law d).Keeps Nameless [] (word s) := keeps_tokenOf
theorem nameless_node {k : Kind} (hk : k ≠ .name) [hp : Keeps d .all [] p] :
    (law d).Keeps Nameless [] (node k p) :=
  keeps_nameless_node hk hp.reads hp.covers
instance nameless_decorator : (law d).Keeps Nameless [] (decorator d self) := by
  unfold decorator; exact nameless_node nofun

theorem reads_called {head name rest : Part} {shape : Shape} [Shape.Bounded shape]
    [hhead : (law d).Keeps Nameless [] head] (hname : name = tokenOf shape .name)
    [hrest : Keeps d .all [] rest] : Reads d (head ++ name ++ rest) (Named shape.Takes) :=
  .named_append_left (.named_append_right hhead.reads_nil
    (hname ▸ reads_named fun _ _ _ _ _ => Shape.takes_of_split?)) hrest.reads

instance keeps_classDeclaration : Keeps d .all [] (classDeclaration d self) := by
  unfold classDeclaration
  refine keeps_declaring rfl nofun nofun (fun shape hshape => ?_) nofun
  obtain rfl := Option.some.inj hshape
  have hname : className d = tokenOf (wordWhere
      (if d.types then fun cs => !oneOf classGoesOn cs else d.isName)) .name := by
    unfold className Dialect.name
    split <;> rfl
  have hend : Keeps d .all [] (opt (leftOut d ⟨false, false⟩)) := inferInstance
  exact .named_append_left (reads_called hname) hend.reads

theorem keeps_abstractClassDeclaration (h : d.types = true) :
    Keeps d .all [] (abstractClassDeclaration d self) := by
  unfold abstractClassDeclaration
  refine keeps_declaring rfl (fun _ => h) nofun (fun shape hshape => ?_) nofun
  obtain rfl := Option.some.inj hshape
  exact reads_called rfl

instance keeps_functionDeclaration : Keeps d ℓ [] (functionDeclaration d self) := by
  unfold functionDeclaration; infer_instance
instance keeps_variable : Keeps d ℓ [] (variable' d self) := by unfold variable'; infer_instance
instance keeps_variableNames : Keeps d ℓ [] (variableNames d self) := by
  unfold variableNames; infer_instance
instance keeps_variableDeclaration : Keeps d ℓ [] (variableDeclaration d self) := by
  unfold variableDeclaration; infer_instance
instance keeps_moduleRest : Keeps d ℓ [] (moduleRest self) := by unfold moduleRest; infer_instance
instance keeps_enumDeclaration : Keeps d ℓ [] (enumDeclaration self) := by
  unfold enumDeclaration; infer_instance
instance keeps_interfaceDeclaration : Keeps d ℓ [] (interfaceDeclaration self) := by
  unfold interfaceDeclaration; infer_instance
instance keeps_aliasDeclaration : Keeps d ℓ [] (aliasDeclaration d self) := by
  unfold aliasDeclaration; infer_instance
instance keeps_importAlias : Keeps d ℓ [] (importAlias d) := by unfold importAlias; infer_instance
theorem keeps_typedDeclaration (h : d.types = true) :
    Keeps d .all [] (typedDeclaration d self) := by
  have habstract := keeps_abstractClassDeclaration self h
  unfold typedDeclaration
  infer_instance
instance keeps_plainDeclaration : Keeps d .all [] (plainDeclaration d self) := by
  have htyped : Keeps d .all [] (if d.types then typedDeclaration d self else fail) := by
    split
    · exact keeps_typedDeclaration self ‹_›
    · exact keeps_fail
  unfold plainDeclaration
  infer_instance

/-! ### What is read before a class -/

theorem Level.Holds.bare {d : Dialect} {f : Forest} (h : decorated.Holds d f) : Bare f := h.2

theorem reads_node {k : Kind} [hp : Keeps d .all [] p] : Reads d (node k p) fun f =>
    ∃ us vs, f = us ++ [.node k vs] ∧ ∀ u ∈ us, u.kind.isOutside = true :=
  .map hp.reads fun f _ =>
    have ⟨us, vs, _, hclose, hus⟩ := Tree.close_eq k f
    ⟨us, vs, hclose, hus⟩

theorem leads_node {k : Kind} [Keeps d .all [] p] :
    Reads d (node k p) (Leads fun us t => us = [] ∧ t.kind = k) :=
  reads_node.mono fun _ ⟨_, _, hf, hus⟩ => hf ▸ (leads_singleton hus).mono fun _ _ ⟨hnil, ht⟩ =>
    ⟨hnil, ht ▸ rfl⟩

theorem leads_of_keeps {R : Forest → Tree → Prop} [hp : Keeps d .decorated [] p] :
    Reads d p (Leads R) :=
  hp.reads_nil.mono fun _ hf => hf.bare.leads R

/-- Neighbouring trees with one word among what would become parts of a construct. -/
def IsWordOf (s : String) (f : Forest) : Prop := Bare f ∧ solidParts f = [Tree.wordLeaf s]

theorem reads_word (s : String) : Reads d (word s) (IsWordOf s) := by
  refine .tokenOf _ _ fun raw f lexeme rest hgap hsplit => ?_
  obtain rfl := Shape.eq_of_split?_exactly_absent hsplit
  have hf := isOutside_of_mem_gap hgap
  refine ⟨fun t ht => ?_, ?_⟩
  · rcases List.mem_append.1 ht with ht | ht
    · exact Tree.declares_of_isOutside (hf t ht)
    · exact List.mem_singleton.1 ht ▸ rfl
  · rw [solidParts_append, solidParts_eq_nil hf]
    rfl

theorem reads_leadWord (s : String) : Reads d (leadWord d true s) (IsWordOf s) := by
  have hgoes : Reads d (goesOn d true false) (· = []) := by
    have hend : Keeps d .all [] (leftOut d ⟨false, false⟩) := inferInstance
    exact .absent hend.reads rfl
  refine .append (reads_word s) hgoes ?_
  rintro f g hf rfl
  rwa [List.append_nil]

theorem leads_append {R : Forest → Tree → Prop} {q : Part} {s : String}
    (hp : Reads d p (IsWordOf s)) (hq : Reads d q (Leads R)) :
    Reads d (p ++ q) (Leads fun us t => ∃ vs, us = Tree.wordLeaf s :: vs ∧ R vs t) :=
  .append hp hq fun _ _ hf hg => (hg.append_right hf.1).mono fun _ _ ⟨vs, hvs, ht⟩ =>
    ⟨vs, by rw [hvs, hf.2]; rfl, ht⟩

theorem leads_plainDeclaration :
    Reads d (plainDeclaration d self) (Leads fun us t => us = [] ∧ t.kind.isClass = true) := by
  have hclass {k : Kind} {q : Part} [Keeps d .all [] q] (hk : k.isClass = true) :
      Reads d (node k q) (Leads fun us t => us = [] ∧ t.kind.isClass = true) :=
    leads_node.mono fun _ hf => hf.mono fun _ _ ⟨hnil, ht⟩ => ⟨hnil, ht ▸ hk⟩
  have htyped : Reads d (typedDeclaration d self)
      (Leads fun us t => us = [] ∧ t.kind.isClass = true) :=
    .orElse (hclass rfl) leads_of_keeps
  unfold plainDeclaration
  refine .orElse ?_ (.orElse leads_of_keeps (.orElse (hclass rfl) leads_of_keeps))
  split
  · exact htyped
  · exact .fail

theorem keeps_ambientDeclaration : Keeps d .all [] (ambientDeclaration d self) := by
  have hleads : Reads d (leadWord d true "declare" ++ (plainDeclaration d self <|>
      (word "global" ++ self (.block false)) <|> (word "module" ++ sym "." ++ named .item ++
        sym ":" ++ self (.type true) ++ semicolon d false))) (Leads Announces) := by
    refine (leads_append (reads_leadWord "declare")
      (.orElse (leads_plainDeclaration self) leads_of_keeps)).mono fun f hf => hf.mono ?_
    rintro us t ⟨_, rfl, rfl, ht⟩
    exact ⟨ht, rfl⟩
  have hall : Keeps d .all [] (leadWord d true "declare" ++ (plainDeclaration d self <|>
      (word "global" ++ self (.block false)) <|> (word "module" ++ sym "." ++ named .item ++
        sym ":" ++ self (.type true) ++ semicolon d false))) := inferInstance
  refine .of_nil (.map (hall.reads_nil.and hleads) fun f hf => hf.1.close ?_) (hall.covers.node .item)
  rintro us vs rfl hus
  exact ⟨isBuilt_of_quiet rfl nofun nofun nofun nofun fun _ => hf.2.parts hus, trivial⟩

instance keeps_declaration : Keeps d .all [] (declaration d self) := by
  have hambient := keeps_ambientDeclaration (d := d) self
  unfold declaration
  infer_instance

theorem leads_declaration :
    Reads d (declaration d self) (Leads fun us t => us = [] ∧ t.kind ≠ .exportDecl) := by
  have hparts : Keeps d .all [] (leadWord d true "declare" ++ (plainDeclaration d self <|>
      (word "global" ++ self (.block false)) <|> (word "module" ++ sym "." ++ named .item ++
        sym ":" ++ self (.type true) ++ semicolon d false))) := inferInstance
  unfold declaration
  refine .orElse ((leads_plainDeclaration self).mono fun _ hf => hf.mono ?_) ?_
  · rintro us t ⟨hnil, ht⟩
    exact ⟨hnil, fun hk => by rw [hk] at ht; cases ht⟩
  · split
    · refine leads_node.mono fun _ hf => hf.mono ?_
      rintro us t ⟨hnil, ht⟩
      exact ⟨hnil, fun hk => by rw [hk] at ht; cases ht⟩
    · exact .fail

/-! ### Imports and exports -/

instance keeps_exchangedName : Keeps d ℓ [] (exchangedName d) := by
  unfold exchangedName; infer_instance
instance keeps_typeOnly : Keeps d ℓ [] (typeOnly d) := by unfold typeOnly; infer_instance
instance keeps_exchangedNames : Keeps d ℓ [] (exchangedNames d) := by
  unfold exchangedNames; infer_instance
instance keeps_origin : Keeps d ℓ [] (origin d self) := by unfold origin; infer_instance
instance keeps_fromOrigin : Keeps d ℓ [] (fromOrigin d self) := by unfold fromOrigin; infer_instance
instance keeps_importStatement : Keeps d ℓ [] (importStatement d self) := by
  unfold importStatement; infer_instance

theorem reads_decorators : Reads d (many (decorator d self)) fun f =>
    Bare f ∧ ∀ t ∈ solidParts f, t.kind = .decorator := by
  have hone : Reads d (decorator d self) fun f =>
      Bare f ∧ ∀ t ∈ solidParts f, t.kind = .decorator := by
    unfold decorator
    refine reads_node.mono ?_
    rintro _ ⟨us, vs, rfl, hus⟩
    refine ⟨List.forall_mem_append.2 ⟨fun u hu => Tree.declares_of_isOutside (hus u hu), ?_⟩, ?_⟩
    · exact fun t ht => List.mem_singleton.1 ht ▸ rfl
    · rw [solidParts_append, solidParts_eq_nil hus]
      exact fun t ht => List.mem_singleton.1 ht ▸ rfl
  refine .many hone ⟨nofun, nofun⟩ ?_
  rintro f g ⟨hf, hf'⟩ ⟨hg, hg'⟩
  rw [solidParts_append]
  exact ⟨List.forall_mem_append.2 ⟨hf, hg⟩, List.forall_mem_append.2 ⟨hf', hg'⟩⟩

theorem leads_exported : Reads d (many (decorator d self) ++ word "export" ++
    ((word "default" ++ (declaration d self <|> (self (.expression .outer) ++ semicolon d true))) <|>
      declaration d self)) (Leads Exports) := by
  have hdefault : Reads d
      (word "default" ++ (declaration d self <|> (self (.expression .outer) ++ semicolon d true)))
      (Leads fun us t => t.kind ≠ .exportDecl ∧ (us = [] ∨ us = [Tree.wordLeaf "default"])) := by
    refine (leads_append (reads_word "default") (.orElse (leads_declaration self)
      leads_of_keeps)).mono fun f hf => hf.mono ?_
    rintro us t ⟨_, rfl, rfl, ht⟩
    exact ⟨ht, .inr rfl⟩
  have hplain : Reads d (declaration d self)
      (Leads fun us t => t.kind ≠ .exportDecl ∧ (us = [] ∨ us = [Tree.wordLeaf "default"])) :=
    (leads_declaration self).mono fun f hf => hf.mono fun us t ⟨hnil, ht⟩ => ⟨ht, .inl hnil⟩
  have hbefore : Reads d (many (decorator d self) ++ word "export") fun f => Bare f ∧
      ∃ ds, solidParts f = ds ++ [Tree.wordLeaf "export"] ∧ ∀ u ∈ ds, u.kind = .decorator :=
    .append (reads_decorators self) (reads_word "export") fun f g hf hg =>
      ⟨List.forall_mem_append.2 ⟨hf.1, hg.1⟩, solidParts f, by rw [solidParts_append, hg.2], hf.2⟩
  refine .append hbefore (.orElse hdefault hplain) ?_
  rintro f g ⟨hf, ds, hwords, hds⟩ hg
  refine (hg.append_right hf).mono ?_
  rintro _ t ⟨vs, rfl, hkind, hvs⟩
  refine ⟨hkind, ds, Tree.wordLeaf "export" :: vs, by rw [hwords]; simp, hds, ?_⟩
  exact hvs.imp (fun h => by rw [h]) fun h => by rw [h]

instance keeps_exportStatement : Keeps d .all [] (exportStatement d self) := by
  unfold exportStatement
  refine keeps_declaring rfl nofun nofun nofun fun _ => ?_
  exact .orElse leads_of_keeps (leads_exported self)

/-! ### Statements -/

instance keeps_condition : Keeps d ℓ [] (condition d self) := by unfold condition; infer_instance
instance keeps_forHeader : Keeps d ℓ [] (forHeader d self) := by unfold forHeader; infer_instance
instance keeps_switchBody : Keeps d ℓ [] (switchBody self) := by
  have hcase : Begins d (word "case") := begins_word (by decide)
  have hdefault : Begins d (word "default") := begins_word (by decide)
  unfold switchBody
  infer_instance
instance keeps_tryStatement : Keeps d ℓ [] (tryStatement d self) := by
  unfold tryStatement; infer_instance
instance keeps_leave (s : String) : Keeps d ℓ [] (leave d s) := by unfold leave; infer_instance
instance keeps_keywordStatement : Keeps d ℓ [] (keywordStatement d self) := by
  have hif : Begins d (word "if") := begins_word (by decide)
  have helse : Begins d (word "else") := begins_word (by decide)
  have hfor : Begins d (word "for") := begins_word (by decide)
  have hwhile : Begins d (word "while") := begins_word (by decide)
  have hdo : Begins d (word "do") := begins_word (by decide)
  have hwith : Begins d (word "with") := begins_word (by decide)
  unfold keywordStatement
  infer_instance
instance keeps_label : Keeps d ℓ [] (label d) := by unfold label; infer_instance
instance keeps_expressionStatement : Keeps d ℓ [] (expressionStatement d self) := by
  unfold expressionStatement; infer_instance
instance keeps_statementRule : Keeps d .all [] (statementRule d self) := by
  have hlabel : Begins d (label d) := begins_tokenOf rfl fun _ _ _ => rfl
  unfold statementRule
  infer_instance

/-! ### What statements are -/

instance fits_tokenless : (law d).Fits Tokenless where
  nil := nofun
  append := List.forall_mem_append
  gap hgap t ht := by
    have hkind := isOutside_of_mem_gap hgap t ht
    intro htoken
    rw [htoken] at hkind
    cases hkind

theorem tokenless_node {k : Kind} (hk : k ≠ .token) [hp : Keeps d .all [] p] :
    (law d).Keeps Tokenless [] (node k p) := by
  refine .of_nil (reads_node.mono ?_) (hp.covers.node k)
  rintro _ ⟨us, vs, rfl, hus⟩
  refine fits_tokenless.append (L := law d).2 ⟨fun u hu htoken => ?_, fun t ht => ?_⟩
  · have hkind := hus u hu
    rw [htoken] at hkind
    cases hkind
  · exact List.mem_singleton.1 ht ▸ hk

instance tokenless_item [Keeps d .all [] p] : (law d).Keeps Tokenless [] (node .item p) :=
  tokenless_node nofun

instance (priority := high) tokenless_ahead [hp : Keeps d .all [] p] :
    (law d).Keeps Tokenless [] (ahead p) :=
  .of_nil (.ahead hp.reads nofun) hp.covers.ahead

instance (priority := high) tokenless_absent [hp : Keeps d .all [] p] :
    (law d).Keeps Tokenless [] (absent p) :=
  .of_nil (.absent hp.reads nofun) hp.covers.absent

instance tokenless_blockRule (b : Bool) : (law d).Keeps Tokenless [] (blockRule d self b) := by
  unfold blockRule; infer_instance
instance tokenless_exportStatement : (law d).Keeps Tokenless [] (exportStatement d self) := by
  unfold exportStatement; exact tokenless_node nofun
instance tokenless_importStatement : (law d).Keeps Tokenless [] (importStatement d self) := by
  unfold importStatement; infer_instance
instance tokenless_keywordStatement : (law d).Keeps Tokenless [] (keywordStatement d self) := by
  have helse : Begins d (word "else") := begins_word (by decide)
  unfold keywordStatement
  infer_instance
instance tokenless_declaration : (law d).Keeps Tokenless [] (declaration d self) := by
  have hclass : (law d).Keeps Tokenless [] (classDeclaration d self) := by
    unfold classDeclaration; exact tokenless_node nofun
  have habstract : (law d).Keeps Tokenless [] (abstractClassDeclaration d self) := by
    unfold abstractClassDeclaration; exact tokenless_node nofun
  unfold declaration plainDeclaration typedDeclaration functionDeclaration variableDeclaration
    ambientDeclaration aliasDeclaration enumDeclaration interfaceDeclaration importAlias
  infer_instance
instance tokenless_expressionStatement :
    (law d).Keeps Tokenless [] (expressionStatement d self) := by
  unfold expressionStatement; infer_instance
instance tokenless_statementRule : (law d).Keeps Tokenless [] (statementRule d self) := by
  have hblock : (law d).Keeps Tokenless [] (self (.block false)) := hself.whole _ rfl
  unfold statementRule
  infer_instance

/-! ### All rules -/

/-- What a rule gives is as it is remembered, if the readers for the rules it is built from are. -/
theorem reads_step (r : Rule) : Reads d (step d self r) (IsResult d r) := by
  -- apart from statements, declarations and decorators are only read inside constructs
  have hinner (r : Rule) [IsPart r] : Keeps d .plain [] (step d self r) := by
    cases r with
    | statement => exact absurd rfl (IsPart.ne_statement (r := .statement))
    | _ => unfold step; infer_instance
  cases r with
  | statement =>
    have hkept : Keeps d .all [] (step d self .statement) := by unfold step; infer_instance
    have hwhole : (law d).Keeps Tokenless [] (step d self .statement) := by
      unfold step; infer_instance
    exact (hkept.reads_nil.and hwhole.reads_nil).mono
      fun f hf => ⟨hf.1.1, fun h => absurd rfl h, fun _ => hf.2, nofun⟩
  | block operand =>
    have hfills : Fills d (step d self (.block operand)) := by unfold step; infer_instance
    have hwhole : (law d).Keeps Tokenless [] (step d self (.block operand)) := by
      unfold step; infer_instance
    exact (((hinner (.block operand)).reads_nil.and hwhole.reads_nil).and hfills.reads).mono
      fun f ⟨⟨hf, htokenless⟩, hfilled⟩ => ⟨hf.1, fun _ => hf, fun _ => htokenless, fun _ _ => hfilled⟩
  | _ => exact (hinner _).reads_nil.mono fun f hf => ⟨hf.1, fun _ => hf, nofun, nofun⟩

/-- What a rule gives has the text that it passes over, if what the rules it is built from give
does. -/
theorem covers_step (r : Rule) : (law d).Covers [] (step d self r) := by
  have hkept : Keeps d .all [] (step d self r) := by
    cases r <;> (unfold step; infer_instance)
  exact hkept.covers

theorem runs_of_reads {rules : Rule → Part} (h : ∀ r, Reads d (rules r) (IsResult d r))
    (hc : ∀ r, (law d).Covers [] (rules r)) : Runs d rules where
  inner _ r hr := .of_nil ((h r).mono fun _ hf => (hf.plain hr).of_plain) (hc r)
  statement := .of_nil ((h .statement).mono fun _ hf => .of_allBuilt hf.built) (hc .statement)
  whole r hr := .of_nil ((h r).mono fun _ hf => hf.tokenless hr) (hc r)
  block operand := ⟨(h (.block operand)).mono fun _ hf => hf.filled operand rfl⟩

instance runs_run (d : Dialect) (fuel : Nat) : Runs d (run d fuel) := by
  -- the fuel is the depth to which rules stand in rules
  induction fuel with
  | zero => exact runs_of_reads (fun _ => .fail) fun _ => .fail
  | succ fuel ih =>
    exact runs_of_reads (fun r => .remembered (reads_step (run d fuel) r))
      fun r => .remembered (covers_step (run d fuel) r)

instance keeps_wholeScript : Keeps d .all [] (wholeScript self) := by
  unfold wholeScript; infer_instance

instance tokenless_wholeScript : (law d).Keeps Tokenless [] (wholeScript self) := by
  have hstatement : (law d).Keeps Tokenless [] (self .statement) := hself.whole _ rfl
  have hitem : Law.Admits Tokenless .item := ⟨fun _ _ ht => List.mem_singleton.1 ht ▸ nofun⟩
  unfold wholeScript
  infer_instance

theorem isAmbient_of_tokenless {f : Forest} (h : Tokenless f) :
    (Tree.node .item f).isAmbient = false := by
  have hhead : f.head?.any (Tree.isWord "declare") = false := by
    cases f with
    | nil => rfl
    | cons t f =>
      have ht := h t List.mem_cons_self
      match t with
      | .node k ts => rfl
      | .leaf k cs =>
        cases k with
        | token => exact absurd rfl ht
        | _ => rfl
  rw [Tree.isAmbient, hhead, Bool.false_and]

theorem forest_of_parse {cs : List Char} {t : Tree} (h : parse d cs = .ok t) :
    ∃ f, t = .node .item f ∧ AllBuilt d f ∧ Tokenless f := by
  have hkeeps : Keeps d .all [] (wholeScript (run d (depthBound cs.length))) := inferInstance
  have hwhole : (law d).Keeps Tokenless [] (wholeScript (run d (depthBound cs.length))) :=
    inferInstance
  obtain ⟨f, rfl, ⟨hbuilt, -⟩, htokenless⟩ :=
    Law.of_whole (hkeeps.reads_nil.and hwhole.reads_nil) h
  exact ⟨f, rfl, hbuilt, htokenless⟩

/-- The tree of a script has the text of the script. -/
theorem text_of_parse {cs : List Char} {t : Tree} (h : parse d cs = .ok t) : t.text = cs := by
  have hkeeps : Keeps d .all [] (opt (tokenOf (.exactly "#!" ++ .many (.one (· != '\n'))) .item) ++
      many (run d (depthBound cs.length) .statement)) := inferInstance
  exact Law.text_of_whole hkeeps.covers h

/-- The tree of a script is built as its dialect has it. -/
theorem isBuilt_of_parse {cs : List Char} {t : Tree} (h : parse d cs = .ok t) :
    ∀ u ∈ t.preorder, IsBuilt d u := by
  obtain ⟨f, rfl, hbuilt, htokenless⟩ := forest_of_parse h
  rw [Tree.preorder]
  exact List.forall_mem_cons.2
    ⟨isPlain_item.built d _ rfl (isAmbient_of_tokenless htokenless), hbuilt⟩

end Docent.Script
