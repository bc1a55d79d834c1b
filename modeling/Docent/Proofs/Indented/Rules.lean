import Docent.Proofs.Indented.Adding

/-!
# The rules lose no text

Every rule of the grammar puts together the text of the tokens it moves past, whatever readers it
is given for the rules it is built from, as long as they do so too. With that an expression has one
tree that stands for it, a statement has something solid in it, and a definition has the parts of
one.
-/

-- a rule is put together from more readers than instances are put together from by default
set_option synthInstance.maxSize 1000

namespace Docent.Indented

open Reader
open Docent.Tree (Filled)

variable {ℓ : Level}

/-! ### Rules inside rules -/

/-- The rules that read no class and no suite. -/
class IsPart (r : Rule) : Prop where
  level_eq : r.level = .plain

instance isPart_simpleStatement : IsPart .simpleStatement := ⟨rfl⟩
instance isPart_expression : IsPart .expression := ⟨rfl⟩
instance isPart_plainExpression : IsPart .plainExpression := ⟨rfl⟩
instance isPart_starExpression : IsPart .starExpression := ⟨rfl⟩
instance isPart_starExpressions : IsPart .starExpressions := ⟨rfl⟩
instance isPart_namedExpression : IsPart .namedExpression := ⟨rfl⟩
instance isPart_disjunction : IsPart .disjunction := ⟨rfl⟩
instance isPart_conjunction : IsPart .conjunction := ⟨rfl⟩
instance isPart_inversion : IsPart .inversion := ⟨rfl⟩
instance isPart_bitwiseOr : IsPart .bitwiseOr := ⟨rfl⟩
instance isPart_bitwiseXor : IsPart .bitwiseXor := ⟨rfl⟩
instance isPart_bitwiseAnd : IsPart .bitwiseAnd := ⟨rfl⟩
instance isPart_shift : IsPart .shift := ⟨rfl⟩
instance isPart_sum : IsPart .sum := ⟨rfl⟩
instance isPart_term : IsPart .term := ⟨rfl⟩
instance isPart_factor : IsPart .factor := ⟨rfl⟩
instance isPart_awaitPrimary : IsPart .awaitPrimary := ⟨rfl⟩
instance isPart_primary : IsPart .primary := ⟨rfl⟩
instance isPart_atom : IsPart .atom := ⟨rfl⟩
instance isPart_strings : IsPart .strings := ⟨rfl⟩
instance isPart_arguments : IsPart .arguments := ⟨rfl⟩
instance isPart_slices : IsPart .slices := ⟨rfl⟩
instance isPart_generator : IsPart .generator := ⟨rfl⟩
instance isPart_starTarget : IsPart .starTarget := ⟨rfl⟩
instance isPart_starTargets : IsPart .starTargets := ⟨rfl⟩
instance isPart_targetWithStarAtom : IsPart .targetWithStarAtom := ⟨rfl⟩
instance isPart_singleTarget : IsPart .singleTarget := ⟨rfl⟩
instance isPart_targetPrimary : IsPart .targetPrimary := ⟨rfl⟩
instance isPart_delTarget : IsPart .delTarget := ⟨rfl⟩
instance isPart_annotatedTarget : IsPart .annotatedTarget := ⟨rfl⟩
instance isPart_pattern : IsPart .pattern := ⟨rfl⟩
instance isPart_openSequencePattern : IsPart .openSequencePattern := ⟨rfl⟩
instance isPart_closedPattern : IsPart .closedPattern := ⟨rfl⟩
instance isPart_starPattern : IsPart .starPattern := ⟨rfl⟩

/-- The rules that read an expression. -/
class IsExpression (r : Rule) : Prop where
  gives_eq : r.Gives = HasForm

instance isExpression_expression : IsExpression .expression := ⟨rfl⟩
instance isExpression_starExpression : IsExpression .starExpression := ⟨rfl⟩
instance isExpression_starExpressions : IsExpression .starExpressions := ⟨rfl⟩
instance isExpression_namedExpression : IsExpression .namedExpression := ⟨rfl⟩
instance isExpression_disjunction : IsExpression .disjunction := ⟨rfl⟩
instance isExpression_conjunction : IsExpression .conjunction := ⟨rfl⟩
instance isExpression_inversion : IsExpression .inversion := ⟨rfl⟩
instance isExpression_bitwiseOr : IsExpression .bitwiseOr := ⟨rfl⟩
instance isExpression_bitwiseXor : IsExpression .bitwiseXor := ⟨rfl⟩
instance isExpression_bitwiseAnd : IsExpression .bitwiseAnd := ⟨rfl⟩
instance isExpression_shift : IsExpression .shift := ⟨rfl⟩
instance isExpression_sum : IsExpression .sum := ⟨rfl⟩
instance isExpression_term : IsExpression .term := ⟨rfl⟩
instance isExpression_factor : IsExpression .factor := ⟨rfl⟩
instance isExpression_awaitPrimary : IsExpression .awaitPrimary := ⟨rfl⟩
instance isExpression_primary : IsExpression .primary := ⟨rfl⟩
instance isExpression_atom : IsExpression .atom := ⟨rfl⟩
instance isExpression_strings : IsExpression .strings := ⟨rfl⟩
instance isExpression_generator : IsExpression .generator := ⟨rfl⟩

/-- Readers for the rules that add trees of the level of the rule and give what the rule gives. -/
class Runs (rules : Rule → Reader Forest) : Prop where
  adds : ∀ r, Adds r.level [] (rules r)
  gives : ∀ r, Gives r.Gives (rules r)

variable (self : Rule → Reader Forest) [hself : Runs self]

instance adds_part (r : Rule) [hr : IsPart r] : Adds ℓ [] (self r) :=
  ⟨(hr.level_eq ▸ hself.adds r).meets.mono fun _ _ _ _ h => h.of_plain ℓ⟩

instance (priority := low) adds_self (r : Rule) : Adds .all [] (self r) := by
  have hr := hself.adds r
  cases hlevel : r.level with
  | plain => exact ⟨(hlevel ▸ hr).meets.mono fun _ _ _ _ h => h.of_plain .all⟩
  | all => exact hlevel ▸ hr

instance hasForm_self (r : Rule) [hr : IsExpression r] : Gives HasForm (self r) :=
  hr.gives_eq ▸ hself.gives r

instance filled_self (r : Rule) [IsExpression r] : Gives Filled (self r) :=
  (hasForm_self self r).mono fun _ => HasForm.filled

instance filled_simpleStatement : Gives Filled (self .simpleStatement) := hself.gives .simpleStatement
instance filled_statements : Gives Filled (self .statements) := hself.gives .statements
instance endsWithSuite_block : Gives EndsWithSuite (self .block) := hself.gives .block

/-! ### Comprehensions -/

instance barren_explainForTarget : Barren (explainForTarget self) := by
  unfold explainForTarget; infer_instance
instance adds_forIfClause : Adds ℓ [] (forIfClause self) := by unfold forIfClause; dsimp only; infer_instance
instance adds_forIfClauses : Adds ℓ [] (forIfClauses self) := by unfold forIfClauses; infer_instance
instance adds_starredExpression : Adds ℓ [] (starredExpression self) := by
  unfold starredExpression; infer_instance
instance adds_assignmentExpression : Adds ℓ [] (assignmentExpression self) := by
  unfold assignmentExpression; infer_instance
instance adds_unassigned : Adds ℓ [] (unassigned self) := by unfold unassigned; infer_instance
instance adds_starNamedExpression : Adds ℓ [] (starNamedExpression self) := by
  unfold starNamedExpression; infer_instance
instance adds_starNamedExpressions : Adds ℓ [] (starNamedExpressions self) := by
  unfold starNamedExpressions; infer_instance
instance barren_explainComprehension : Barren (explainComprehension self) := by
  unfold explainComprehension; infer_instance
instance adds_generatorExpression : Adds ℓ [] (generatorExpression self) := by
  unfold generatorExpression; infer_instance

/-! ### Atoms -/

instance adds_tuple : Adds ℓ [] (tuple self) := by unfold tuple; infer_instance
instance adds_yieldExpression : Adds ℓ [] (yieldExpression self) := by
  unfold yieldExpression; infer_instance
instance adds_group : Adds ℓ [] (group self) := by unfold group; infer_instance
instance adds_list : Adds ℓ [] (list self) := by unfold list; infer_instance
instance adds_listComprehension : Adds ℓ [] (listComprehension self) := by
  unfold listComprehension; infer_instance
instance adds_keyValue : Adds ℓ [] (keyValue self) := by unfold keyValue; infer_instance
instance adds_doubleStarredKeyValue : Adds ℓ [] (doubleStarredKeyValue self) := by
  unfold doubleStarredKeyValue; infer_instance
instance barren_explainKeyValue : Barren (explainKeyValue self) := by
  unfold explainKeyValue; infer_instance
instance barren_explainKeyValues : Barren (explainKeyValues self) := by
  unfold explainKeyValues; infer_instance
instance adds_dict : Adds ℓ [] (dict self) := by unfold dict; infer_instance
instance adds_set : Adds ℓ [] (set self) := by unfold set; infer_instance
instance adds_dictComprehension : Adds ℓ [] (dictComprehension self) := by
  unfold dictComprehension; infer_instance
instance adds_setComprehension : Adds ℓ [] (setComprehension self) := by
  unfold setComprehension; infer_instance
instance adds_atom : Adds ℓ [] (atom self) := by unfold atom; infer_instance

/-! ### Subscripts and calls -/

instance adds_slice : Adds ℓ [] (slice self) := by unfold slice; infer_instance
instance adds_slicesRule : Adds ℓ [] (slicesRule self) := by unfold slicesRule; infer_instance
instance barren_explainKeywordArgument : Barren (explainKeywordArgument self) := by
  unfold explainKeywordArgument; infer_instance
instance adds_keywordArgument : Adds ℓ [] (keywordArgument self) := by
  unfold keywordArgument; infer_instance
instance adds_keywordOrStarred : Adds ℓ [] (keywordOrStarred self) := by
  unfold keywordOrStarred; infer_instance
instance adds_keywordOrDoubleStarred : Adds ℓ [] (keywordOrDoubleStarred self) := by
  unfold keywordOrDoubleStarred; infer_instance
instance adds_keywordArguments : Adds ℓ [] (keywordArguments self) := by
  unfold keywordArguments; infer_instance
instance adds_positionalArgument : Adds ℓ [] (positionalArgument self) := by
  unfold positionalArgument; infer_instance
instance adds_args : Adds ℓ [] (args self) := by unfold args; infer_instance
instance barren_explainArguments : Barren (explainArguments self) := by
  unfold explainArguments; infer_instance
instance adds_argumentsRule : Adds ℓ [] (argumentsRule self) := by
  unfold argumentsRule; infer_instance
instance adds_primaryRule : Adds ℓ [] (primaryRule self) := by unfold primaryRule; infer_instance

/-! ### Operators -/

instance adds_awaitPrimaryRule : Adds ℓ [] (awaitPrimaryRule self) := by
  unfold awaitPrimaryRule; infer_instance
instance adds_power : Adds ℓ [] (power self) := by unfold power; infer_instance
instance adds_factorRule : Adds ℓ [] (factorRule self) := by unfold factorRule; infer_instance
instance adds_chain (ops : List String) (r : Rule) [IsPart r] : Adds ℓ [] (chain self ops r) := by
  unfold chain; infer_instance
instance adds_comparison : Adds ℓ [] (comparison self) := by
  unfold comparison; dsimp only; infer_instance
instance adds_inversionRule : Adds ℓ [] (inversionRule self) := by
  unfold inversionRule; infer_instance
instance adds_joined (k : String) (r : Rule) [IsPart r] : Adds ℓ [] (joined self k r) := by
  unfold joined; infer_instance

/-! ### Parameters -/

section

variable (style : ParameterStyle)

instance adds_param : Adds ℓ [] (param self style) := by unfold param; infer_instance
instance adds_paramEnd : Adds ℓ [] (paramEnd style) := by unfold paramEnd; infer_instance
instance adds_default : Adds ℓ [] (default self) := by unfold default; infer_instance
instance adds_paramNoDefault : Adds ℓ [] (paramNoDefault self style) := by
  unfold paramNoDefault; infer_instance
instance adds_paramWithDefault : Adds ℓ [] (paramWithDefault self style) := by
  unfold paramWithDefault; infer_instance
instance adds_paramMaybeDefault : Adds ℓ [] (paramMaybeDefault self style) := by
  unfold paramMaybeDefault; infer_instance
instance adds_paramStarAnnotated : Adds ℓ [] (paramStarAnnotated self style) := by
  unfold paramStarAnnotated; infer_instance
instance adds_slash : Adds ℓ [] (slash style) := by unfold slash; infer_instance
instance adds_slashNoDefault : Adds ℓ [] (slashNoDefault self style) := by
  unfold slashNoDefault; infer_instance
instance adds_slashWithDefault : Adds ℓ [] (slashWithDefault self style) := by
  unfold slashWithDefault; infer_instance
instance barren_explainDoubleStar : Barren (explainDoubleStar self style) := by
  unfold explainDoubleStar; infer_instance
instance adds_doubleStar : Adds ℓ [] (doubleStar self style) := by unfold doubleStar; infer_instance
instance barren_explainStar : Barren (explainStar self style) := by
  unfold explainStar; infer_instance
instance adds_starEtc : Adds ℓ [] (starEtc self style) := by unfold starEtc; infer_instance
instance barren_explainParameters : Barren (explainParameters self style) := by
  unfold explainParameters; infer_instance
instance adds_parameters : Adds ℓ [] (parameters self style) := by unfold parameters; infer_instance

end

instance adds_lambda : Adds ℓ [] (lambda self) := by unfold lambda; infer_instance

/-! ### Expressions -/

instance adds_conditional : Adds ℓ [] (conditional self) := by unfold conditional; infer_instance
instance barren_explainExpression : Barren (explainExpression self) := by
  unfold explainExpression; infer_instance
instance barren_explainOldStatement : Barren (explainOldStatement self) := by
  unfold explainOldStatement; infer_instance
instance adds_expressionRule : Adds ℓ [] (expressionRule self) := by
  unfold expressionRule; infer_instance
instance adds_plainExpressionRule : Adds ℓ [] (plainExpressionRule self) := by
  unfold plainExpressionRule; infer_instance
instance barren_explainNamedExpression : Barren (explainNamedExpression self) := by
  unfold explainNamedExpression; infer_instance
instance adds_namedExpressionRule : Adds ℓ [] (namedExpressionRule self) := by
  unfold namedExpressionRule; infer_instance
instance adds_starExpressionRule : Adds ℓ [] (starExpressionRule self) := by
  unfold starExpressionRule; infer_instance
instance adds_listed (p : Reader Forest) [Adds ℓ [] p] : Adds ℓ [] (listed p) := by
  unfold listed; infer_instance
instance adds_expressions : Adds ℓ [] (expressions self) := by unfold expressions; infer_instance

/-! ### Targets -/

instance adds_targetGoesOn : Adds ℓ [] targetGoesOn := by unfold targetGoesOn; infer_instance
instance adds_targetPrimaryRule : Adds ℓ [] (targetPrimaryRule self) := by
  unfold targetPrimaryRule; infer_instance
instance adds_subscriptAttributeTarget : Adds ℓ [] (subscriptAttributeTarget self) := by
  unfold subscriptAttributeTarget; infer_instance
instance adds_starTargetsTuple : Adds ℓ [] (starTargetsTuple self) := by
  unfold starTargetsTuple; infer_instance
instance adds_starAtom : Adds ℓ [] (starAtom self) := by unfold starAtom; infer_instance
instance adds_targetWithStarAtomRule : Adds ℓ [] (targetWithStarAtomRule self) := by
  unfold targetWithStarAtomRule; infer_instance
instance adds_starTargetRule : Adds ℓ [] (starTargetRule self) := by
  unfold starTargetRule; infer_instance
instance adds_starTargetsRule : Adds ℓ [] (starTargetsRule self) := by
  unfold starTargetsRule; infer_instance
instance adds_singleTargetRule : Adds ℓ [] (singleTargetRule self) := by
  unfold singleTargetRule; infer_instance
instance adds_delTargets : Adds ℓ [] (delTargets self) := by unfold delTargets; infer_instance
instance adds_delTargetRule : Adds ℓ [] (delTargetRule self) := by
  unfold delTargetRule; infer_instance
instance adds_annotatedTargetRule : Adds ℓ [] (annotatedTargetRule self) := by
  unfold annotatedTargetRule; infer_instance
instance adds_numberOfKind (b : Bool) : Adds ℓ [] (numberOfKind b) := by
  unfold numberOfKind; infer_instance
instance adds_signedNumber : Adds ℓ [] signedNumber := by unfold signedNumber; infer_instance
instance adds_signedRealNumber : Adds ℓ [] signedRealNumber := by
  unfold signedRealNumber; infer_instance
instance adds_complexNumber : Adds ℓ [] complexNumber := by unfold complexNumber; infer_instance
instance adds_literalPattern : Adds ℓ [] (literalPattern self) := by
  unfold literalPattern; infer_instance
instance adds_captureTarget : Adds ℓ [] captureTarget := by unfold captureTarget; infer_instance
instance adds_dottedAttribute : Adds ℓ [] dottedAttribute := by unfold dottedAttribute; infer_instance
instance adds_nameOrAttribute : Adds ℓ [] nameOrAttribute := by unfold nameOrAttribute; infer_instance
instance adds_maybeStarPattern : Adds ℓ [] (maybeStarPattern self) := by
  unfold maybeStarPattern; infer_instance
instance adds_maybeSequencePattern : Adds ℓ [] (maybeSequencePattern self) := by
  unfold maybeSequencePattern; infer_instance
instance adds_openSequencePatternRule : Adds ℓ [] (openSequencePatternRule self) := by
  unfold openSequencePatternRule; infer_instance
instance adds_starPatternRule : Adds ℓ [] starPatternRule := by unfold starPatternRule; infer_instance
instance adds_sequencePattern : Adds ℓ [] (sequencePattern self) := by
  unfold sequencePattern; infer_instance
instance adds_keyValuePattern : Adds ℓ [] (keyValuePattern self) := by
  unfold keyValuePattern; infer_instance
instance adds_mappingPattern : Adds ℓ [] (mappingPattern self) := by
  unfold mappingPattern; infer_instance
instance adds_positionalPatterns : Adds ℓ [] (positionalPatterns self) := by
  unfold positionalPatterns; infer_instance
instance adds_keywordPatterns : Adds ℓ [] (keywordPatterns self) := by
  unfold keywordPatterns; infer_instance
instance adds_classPattern : Adds ℓ [] (classPattern self) := by unfold classPattern; infer_instance
instance adds_closedPatternRule : Adds ℓ [] (closedPatternRule self) := by
  unfold closedPatternRule; infer_instance
instance adds_orPattern : Adds ℓ [] (orPattern self) := by unfold orPattern; infer_instance
instance barren_explainAsPattern : Barren (explainAsPattern self) := by
  unfold explainAsPattern; infer_instance
instance adds_patternRule : Adds ℓ [] (patternRule self) := by unfold patternRule; infer_instance
instance adds_patterns : Adds ℓ [] (patterns self) := by unfold patterns; infer_instance

/-! ### Simple statements -/

instance adds_annotatedValue : Adds ℓ [] (annotatedValue self) := by
  unfold annotatedValue; infer_instance
instance adds_augmentedMark : Adds ℓ [] augmentedMark := by unfold augmentedMark; infer_instance
instance barren_explainAssignment : Barren (explainAssignment self) := by
  unfold explainAssignment; infer_instance
instance adds_assignment : Adds ℓ [] (assignment self) := by unfold assignment; dsimp only; infer_instance
instance adds_dottedName : Adds ℓ [] dottedName := by unfold dottedName; infer_instance
instance adds_importName : Adds ℓ [] importName := by unfold importName; infer_instance
instance adds_importedNames : Adds ℓ [] importedNames := by unfold importedNames; infer_instance
instance adds_importTargets : Adds ℓ [] importTargets := by unfold importTargets; infer_instance
instance adds_importFrom : Adds ℓ [] importFrom := by unfold importFrom; infer_instance
instance adds_delStatement : Adds ℓ [] (delStatement self) := by unfold delStatement; infer_instance
instance adds_raiseStatement : Adds ℓ [] (raiseStatement self) := by
  unfold raiseStatement; infer_instance
instance adds_keyed (k : String) (p : Reader Forest) [Adds ℓ [] p] : Adds ℓ [] (keyed k p) := by
  unfold keyed; infer_instance
instance adds_simpleStatementRule : Adds ℓ [] (simpleStatementRule self) := by
  unfold simpleStatementRule; infer_instance
instance adds_simpleStatements : Adds ℓ [] (simpleStatements self) := by
  unfold simpleStatements; infer_instance

/-! ### Suites -/

instance adds_blockRule : Adds .all [] (blockRule self) := by unfold blockRule; infer_instance
instance barren_explainSuite (owner : SuiteOwner) (p : Reader Forest) [Adds .all [] p] :
    Barren (explainSuite owner p) := by
  unfold explainSuite; infer_instance
instance barren_explainColon (p : Reader Forest) [Adds .all [] p] : Barren (explainColon p) := by
  unfold explainColon; infer_instance

/-! ### Definitions -/

instance adds_decorators : Adds ℓ [] (decorators self) := by unfold decorators; infer_instance
instance decoratorRun_decorators : Gives IsDecoratorRun (decorators self) := by
  unfold decorators; infer_instance
instance adds_baseClasses : Adds ℓ [] (baseClasses self) := by unfold baseClasses; infer_instance
instance adds_rawClass : Adds .all [] (rawClass self) := by unfold rawClass; infer_instance
instance begins_rawClass : Gives (BeginsWith ["class"]) (rawClass self) := by
  unfold rawClass; infer_instance
instance endsWithSuite_rawClass : Gives EndsWithSuite (rawClass self) := by
  unfold rawClass; infer_instance
instance adds_classDefinition : Adds .all [] (classDefinition self) := by
  have hplain : Gives (Defines (definitionWords .classDecl)) (rawClass self) :=
    defines_of_begins (begins_rawClass self) inferInstance
  have hdecorated : Gives (Defines (definitionWords .classDecl)) (decorators self ++ rawClass self) :=
    defines_of_decorators inferInstance (begins_rawClass self) inferInstance
  unfold classDefinition
  infer_instance
instance adds_rawFunction : Adds .all [] (rawFunction self) := by unfold rawFunction; dsimp only; infer_instance
instance begins_rawFunction : Gives (BeginsWith ["def", "async"]) (rawFunction self) := by
  have hasync : Gives (BeginsWith ["def", "async"]) (sym "async") := begins_sym (by decide)
  unfold rawFunction; dsimp only; infer_instance
instance endsWithSuite_rawFunction : Gives EndsWithSuite (rawFunction self) := by
  unfold rawFunction; dsimp only; infer_instance
instance adds_functionDefinition : Adds .all [] (functionDefinition self) := by
  have hplain : Gives (Defines (definitionWords .method)) (rawFunction self) :=
    defines_of_begins (begins_rawFunction self) inferInstance
  have hdecorated : Gives (Defines (definitionWords .method)) (decorators self ++ rawFunction self) :=
    defines_of_decorators inferInstance (begins_rawFunction self) inferInstance
  unfold functionDefinition
  infer_instance

/-! ### Compound statements -/

instance barren_explainAsyncSuite (owner : SuiteOwner) (p : Reader Forest) [Adds .all [] p] :
    Barren (explainAsyncSuite owner p) := by
  unfold explainAsyncSuite; infer_instance
instance adds_elseBlock : Adds .all [] (elseBlock self) := by unfold elseBlock; infer_instance
instance adds_conditionBlock (k : String) : Adds .all [] (conditionBlock self k) := by
  unfold conditionBlock; infer_instance
instance adds_whileStatement : Adds .all [] (whileStatement self) := by
  unfold whileStatement; infer_instance
instance adds_forStatement : Adds .all [] (forStatement self) := by unfold forStatement; dsimp only; infer_instance
instance adds_withItem : Adds .all [] (withItem self) := by unfold withItem; infer_instance
instance adds_withStatement : Adds .all [] (withStatement self) := by
  unfold withStatement; dsimp only; infer_instance
instance adds_finallyBlock : Adds .all [] (finallyBlock self) := by unfold finallyBlock; infer_instance
instance barren_explainHandler : Barren (explainHandler self) := by
  unfold explainHandler; infer_instance
instance adds_exceptBlock : Adds .all [] (exceptBlock self) := by unfold exceptBlock; infer_instance
instance adds_exceptStarBlock : Adds .all [] (exceptStarBlock self) := by
  unfold exceptStarBlock; infer_instance
instance adds_tryStatement : Adds .all [] (tryStatement self) := by unfold tryStatement; infer_instance
instance adds_caseBlock : Adds .all [] (caseBlock self) := by unfold caseBlock; dsimp only; infer_instance
instance adds_matchStatement : Adds .all [] (matchStatement self) := by
  unfold matchStatement; infer_instance
instance adds_compoundStatement : Adds .all [] (compoundStatement self) := by
  unfold compoundStatement; infer_instance
instance adds_statementsRule : Adds .all [] (statementsRule self) := by
  unfold statementsRule; infer_instance

/-! ### What the rules give -/

instance hasForm_assignmentExpression : Gives HasForm (assignmentExpression self) := by
  unfold assignmentExpression; infer_instance
instance hasForm_unassigned : Gives HasForm (unassigned self) := by unfold unassigned; infer_instance
instance hasForm_starNamedExpression : Gives HasForm (starNamedExpression self) := by
  unfold starNamedExpression; infer_instance
instance hasForm_generatorExpression : Gives HasForm (generatorExpression self) := by
  unfold generatorExpression; infer_instance
instance hasForm_tuple : Gives HasForm (tuple self) := by unfold tuple; infer_instance
instance hasForm_yieldExpression : Gives HasForm (yieldExpression self) := by
  unfold yieldExpression; infer_instance
instance hasForm_group : Gives HasForm (group self) := by unfold group; infer_instance
instance hasForm_list : Gives HasForm (list self) := by unfold list; infer_instance
instance hasForm_listComprehension : Gives HasForm (listComprehension self) := by
  unfold listComprehension; infer_instance
instance hasForm_dict : Gives HasForm (dict self) := by unfold dict; infer_instance
instance hasForm_set : Gives HasForm (set self) := by unfold set; infer_instance
instance hasForm_dictComprehension : Gives HasForm (dictComprehension self) := by
  unfold dictComprehension; infer_instance
instance hasForm_setComprehension : Gives HasForm (setComprehension self) := by
  unfold setComprehension; infer_instance
instance hasForm_atom : Gives HasForm (atom self) := by unfold atom; infer_instance
instance hasForm_primaryRule : Gives HasForm (primaryRule self) := by
  unfold primaryRule; infer_instance
instance hasForm_awaitPrimaryRule : Gives HasForm (awaitPrimaryRule self) := by
  unfold awaitPrimaryRule; infer_instance
instance hasForm_power : Gives HasForm (power self) := by unfold power; infer_instance
instance hasForm_factorRule : Gives HasForm (factorRule self) := by unfold factorRule; infer_instance
instance hasForm_chain (ops : List String) (r : Rule) [IsExpression r] [IsPart r] :
    Gives HasForm (chain self ops r) := by
  unfold chain; infer_instance
instance hasForm_comparison : Gives HasForm (comparison self) :=
  hasForm_closeMore inferInstance inferInstance
instance hasForm_inversionRule : Gives HasForm (inversionRule self) := by
  unfold inversionRule; infer_instance
instance hasForm_joined (k : String) (r : Rule) [IsExpression r] [IsPart r] :
    Gives HasForm (joined self k r) :=
  hasForm_closeMore inferInstance inferInstance
instance hasForm_lambda : Gives HasForm (lambda self) := by unfold lambda; infer_instance
instance hasForm_conditional : Gives HasForm (conditional self) := by
  unfold conditional; infer_instance
instance hasForm_expressionRule : Gives HasForm (expressionRule self) := by
  unfold expressionRule; infer_instance
instance hasForm_plainExpressionRule : Gives HasForm (plainExpressionRule self) := by
  unfold plainExpressionRule; infer_instance
instance hasForm_namedExpressionRule : Gives HasForm (namedExpressionRule self) := by
  unfold namedExpressionRule; infer_instance
instance hasForm_starExpressionRule : Gives HasForm (starExpressionRule self) := by
  unfold starExpressionRule; infer_instance
instance hasForm_listed (p : Reader Forest) [Gives HasForm p] [Gives Filled p] [Adds .all [] p] :
    Gives HasForm (listed p) := by
  unfold listed; infer_instance

instance filled_subscriptAttributeTarget : Gives Filled (subscriptAttributeTarget self) := by
  unfold subscriptAttributeTarget; infer_instance
instance filled_assignment : Gives Filled (assignment self) := by
  have hyield : Gives Filled (yieldExpression self) :=
    (hasForm_yieldExpression self).mono fun _ => HasForm.filled
  unfold assignment; dsimp only; infer_instance
instance filled_importName : Gives Filled importName := by unfold importName; infer_instance
instance filled_importFrom : Gives Filled importFrom := by unfold importFrom; infer_instance
instance filled_raiseStatement : Gives Filled (raiseStatement self) := by
  unfold raiseStatement; infer_instance
instance filled_delStatement : Gives Filled (delStatement self) := by
  unfold delStatement; infer_instance
instance filled_keyed (k : String) (p : Reader Forest) [Gives Filled p] : Gives Filled (keyed k p) := by
  unfold keyed; infer_instance
instance filled_simpleStatementRule : Gives Filled (simpleStatementRule self) := by
  have hyield : Gives Filled (yieldExpression self) :=
    (hasForm_yieldExpression self).mono fun _ => HasForm.filled
  unfold simpleStatementRule; infer_instance
instance filled_simpleStatements : Gives Filled (simpleStatements self) := by
  unfold simpleStatements; infer_instance
instance endsWithSuite_blockRule : Gives EndsWithSuite (blockRule self) := by
  unfold blockRule; infer_instance
instance filled_rawFunction : Gives Filled (rawFunction self) :=
  (endsWithSuite_rawFunction self).mono fun _ => EndsWithSuite.filled
instance filled_rawClass : Gives Filled (rawClass self) :=
  (endsWithSuite_rawClass self).mono fun _ => EndsWithSuite.filled
instance filled_functionDefinition : Gives Filled (functionDefinition self) := by
  unfold functionDefinition; infer_instance
instance filled_classDefinition : Gives Filled (classDefinition self) := by
  unfold classDefinition; infer_instance
instance filled_conditionBlock (k : String) : Gives Filled (conditionBlock self k) := by
  unfold conditionBlock; infer_instance
instance filled_whileStatement : Gives Filled (whileStatement self) := by
  unfold whileStatement; infer_instance
instance filled_forStatement : Gives Filled (forStatement self) := by
  unfold forStatement; dsimp only; infer_instance
instance filled_withStatement : Gives Filled (withStatement self) := by
  unfold withStatement; dsimp only; infer_instance
instance filled_tryStatement : Gives Filled (tryStatement self) := by
  unfold tryStatement; infer_instance
instance filled_matchStatement : Gives Filled (matchStatement self) := by
  unfold matchStatement; infer_instance
instance filled_compoundStatement : Gives Filled (compoundStatement self) := by
  unfold compoundStatement; infer_instance
instance filled_statementsRule : Gives Filled (statementsRule self) := by
  unfold statementsRule; infer_instance

/-! ### All rules -/

/-- Each rule adds trees of its level if the readers for the rules it is built from do so. -/
instance adds_step (r : Rule) : Adds r.level [] (step self r) := by
  cases r <;> (unfold step Rule.level; dsimp only; infer_instance)

/-- Each rule gives what it has to if the readers for the rules it is built from do so. -/
instance gives_step (r : Rule) : Gives r.Gives (step self r) := by
  cases r <;> (unfold step Rule.Gives; dsimp only; infer_instance)

end Docent.Indented
