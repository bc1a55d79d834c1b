import Docent.Proofs.Indented.Alike

/-!
# The rules go alike

Over two lists of tokens that differ at the end of the source only, every rule of the grammar does
the same, whatever readers it is given for the rules it is built from, as long as they do so too.
-/

-- a rule is put together from more readers than instances are put together from by default
set_option synthInstance.maxSize 1000

namespace Docent.Indented

open Reader

variable {last : Nat}

/-- Readers for the rules that go alike. -/
class RunsAlike (last : Nat) (rules : Rule → Reader Forest) : Prop where
  alike : ∀ r, Alike last Eq (rules r) (rules r)

variable (self : Rule → Reader Forest) [hself : RunsAlike last self]

instance alike_self (r : Rule) : Alike last Eq (self r) (self r) := hself.alike r

/-! ### Lines that are kept -/

/-- The same forest, read from two lines on. -/
structure ReadFrom (last : Nat) (r r' : Nat × Forest) : Prop where
  line : LineNear last r.1 r'.1
  forest : r'.2 = r.2

instance alike_pure_readFrom (p : Lines last) (a : Forest) :
    Alike last (ReadFrom last) (pure (p.first, a)) (pure (p.second, a)) :=
  ⟨fun _ pos m => .done ⟨p.near, rfl⟩ pos m⟩

instance alike_commit_readFrom {p q : Reader (Nat × Forest)} {f g : Nat × Forest → Reader Forest}
    {p' q' : Reader Forest} [hp : Alike last (ReadFrom last) p q]
    [hf : ∀ (l : Lines last) (a : Forest), Alike last Eq (f (l.first, a)) (g (l.second, a))]
    [hq : Alike last Eq p' q'] : Alike last Eq (commit p f p') (commit q g q') := by
  refine alike_commit_of hp (fun r r' h => ?_) hq
  obtain ⟨l, a⟩ := r
  obtain ⟨l', a'⟩ := r'
  obtain ⟨hline, hforest⟩ := h
  cases hforest
  exact hf ⟨l, l', hline⟩ a

theorem lineNear_go {l l' k k' : Nat} (hl : LineNear last l l') (hk : LineNear last k k')
    (f : Forest) : LineNear last (lastPositionalLine.go l k f) (lastPositionalLine.go l' k' f) := by
  induction f generalizing l l' k k' with
  | nil => exact hk
  | cons t ts ih =>
    rw [lastPositionalLine.go, lastPositionalLine.go]
    refine ih (.add t.newlines) ?_
    split
    · exact (core_placed hl t).2
    · exact hk

instance lineNear_lastPositionalLine {l l' : Nat} [h : LineNear last l l'] (f : Forest) :
    LineNear last (lastPositionalLine l f) (lastPositionalLine l' f) :=
  lineNear_go h h (solid f)

/-! ### Comprehensions -/

instance alike_explainForTarget :
    Alike last Eq (explainForTarget self) (explainForTarget self) := by
  unfold explainForTarget; infer_instance
instance alike_forIfClause : Alike last Eq (forIfClause self) (forIfClause self) := by
  unfold forIfClause; dsimp only; infer_instance
instance alike_forIfClauses : Alike last Eq (forIfClauses self) (forIfClauses self) := by
  unfold forIfClauses; infer_instance
instance alike_starredExpression :
    Alike last Eq (starredExpression self) (starredExpression self) := by
  unfold starredExpression; infer_instance
instance alike_assignmentExpression :
    Alike last Eq (assignmentExpression self) (assignmentExpression self) := by
  unfold assignmentExpression; infer_instance
instance alike_unassigned : Alike last Eq (unassigned self) (unassigned self) := by
  unfold unassigned; infer_instance
instance alike_starNamedExpression :
    Alike last Eq (starNamedExpression self) (starNamedExpression self) := by
  unfold starNamedExpression; infer_instance
instance alike_starNamedExpressions :
    Alike last Eq (starNamedExpressions self) (starNamedExpressions self) := by
  unfold starNamedExpressions; infer_instance
instance alike_explainComprehension :
    Alike last Eq (explainComprehension self) (explainComprehension self) := by
  unfold explainComprehension; infer_instance
instance alike_generatorExpression :
    Alike last Eq (generatorExpression self) (generatorExpression self) := by
  unfold generatorExpression; infer_instance

/-! ### Atoms -/

instance alike_tuple : Alike last Eq (tuple self) (tuple self) := by unfold tuple; infer_instance
instance alike_yieldExpression : Alike last Eq (yieldExpression self) (yieldExpression self) := by
  unfold yieldExpression; infer_instance
instance alike_group : Alike last Eq (group self) (group self) := by unfold group; infer_instance
instance alike_list : Alike last Eq (list self) (list self) := by unfold list; infer_instance
instance alike_listComprehension :
    Alike last Eq (listComprehension self) (listComprehension self) := by
  unfold listComprehension; infer_instance
instance alike_keyValue : Alike last Eq (keyValue self) (keyValue self) := by
  unfold keyValue; infer_instance
instance alike_doubleStarredKeyValue :
    Alike last Eq (doubleStarredKeyValue self) (doubleStarredKeyValue self) := by
  unfold doubleStarredKeyValue; infer_instance
instance alike_explainKeyValue : Alike last Eq (explainKeyValue self) (explainKeyValue self) := by
  unfold explainKeyValue; infer_instance
instance alike_explainKeyValues :
    Alike last Eq (explainKeyValues self) (explainKeyValues self) := by
  unfold explainKeyValues; infer_instance
instance alike_dict : Alike last Eq (dict self) (dict self) := by unfold dict; infer_instance
instance alike_set : Alike last Eq (set self) (set self) := by unfold set; infer_instance
instance alike_dictComprehension :
    Alike last Eq (dictComprehension self) (dictComprehension self) := by
  unfold dictComprehension; infer_instance
instance alike_setComprehension :
    Alike last Eq (setComprehension self) (setComprehension self) := by
  unfold setComprehension; infer_instance
instance alike_atom : Alike last Eq (atom self) (atom self) := by unfold atom; infer_instance

/-! ### Subscripts and calls -/

instance alike_slice : Alike last Eq (slice self) (slice self) := by unfold slice; infer_instance
instance alike_slicesRule : Alike last Eq (slicesRule self) (slicesRule self) := by
  unfold slicesRule; infer_instance
instance alike_explainKeywordArgument :
    Alike last Eq (explainKeywordArgument self) (explainKeywordArgument self) := by
  have hword : Alike last Eq
      (do
        let t ← peek
        let _ ← anySym ["True", "False", "None"] ++ sym "="
        refuse (.assignTo t.symbol) t.line : Reader Forest)
      (do
        let t ← peek
        let _ ← anySym ["True", "False", "None"] ++ sym "="
        refuse (.assignTo t.symbol) t.line) := by
    refine alike_peek_bind fun t t' h => ?_
    have := h.line
    rw [h.symbol]
    infer_instance
  unfold explainKeywordArgument; infer_instance
instance alike_keywordArgument : Alike last Eq (keywordArgument self) (keywordArgument self) := by
  unfold keywordArgument; infer_instance
instance alike_keywordOrStarred :
    Alike last Eq (keywordOrStarred self) (keywordOrStarred self) := by
  unfold keywordOrStarred; infer_instance
instance alike_keywordOrDoubleStarred :
    Alike last Eq (keywordOrDoubleStarred self) (keywordOrDoubleStarred self) := by
  unfold keywordOrDoubleStarred; infer_instance
instance alike_keywordArguments :
    Alike last Eq (keywordArguments self) (keywordArguments self) := by
  unfold keywordArguments; infer_instance
instance alike_positionalArgument :
    Alike last Eq (positionalArgument self) (positionalArgument self) := by
  unfold positionalArgument; infer_instance
instance alike_args : Alike last Eq (args self) (args self) := by unfold args; infer_instance
instance alike_explainArguments :
    Alike last Eq (explainArguments self) (explainArguments self) := by
  unfold explainArguments; infer_instance
instance alike_argumentsRule : Alike last Eq (argumentsRule self) (argumentsRule self) := by
  unfold argumentsRule; infer_instance
instance alike_primaryRule : Alike last Eq (primaryRule self) (primaryRule self) := by
  unfold primaryRule; infer_instance

/-! ### Operators -/

instance alike_awaitPrimaryRule :
    Alike last Eq (awaitPrimaryRule self) (awaitPrimaryRule self) := by
  unfold awaitPrimaryRule; infer_instance
instance alike_power : Alike last Eq (power self) (power self) := by unfold power; infer_instance
instance alike_factorRule : Alike last Eq (factorRule self) (factorRule self) := by
  unfold factorRule; infer_instance
instance alike_chain (ops : List String) (r : Rule) :
    Alike last Eq (chain self ops r) (chain self ops r) := by
  unfold chain; infer_instance
instance alike_comparison : Alike last Eq (comparison self) (comparison self) := by
  unfold comparison; dsimp only; infer_instance
instance alike_inversionRule : Alike last Eq (inversionRule self) (inversionRule self) := by
  unfold inversionRule; infer_instance
instance alike_joined (k : String) (r : Rule) :
    Alike last Eq (joined self k r) (joined self k r) := by
  unfold joined; infer_instance

/-! ### Parameters -/

instance alike_param : Alike last Eq (param self style) (param self style) := by
  unfold param; infer_instance
instance alike_paramEnd : Alike last Eq (paramEnd style) (paramEnd style) := by
  unfold paramEnd; infer_instance
instance alike_default : Alike last Eq (default self) (default self) := by
  unfold default; infer_instance
instance alike_paramNoDefault :
    Alike last Eq (paramNoDefault self style) (paramNoDefault self style) := by
  unfold paramNoDefault; infer_instance
instance alike_paramWithDefault :
    Alike last Eq (paramWithDefault self style) (paramWithDefault self style) := by
  unfold paramWithDefault; infer_instance
instance alike_paramMaybeDefault :
    Alike last Eq (paramMaybeDefault self style) (paramMaybeDefault self style) := by
  unfold paramMaybeDefault; infer_instance
instance alike_paramStarAnnotated :
    Alike last Eq (paramStarAnnotated self style) (paramStarAnnotated self style) := by
  unfold paramStarAnnotated; infer_instance
instance alike_slash : Alike last Eq (slash style) (slash style) := by unfold slash; infer_instance
instance alike_slashNoDefault :
    Alike last Eq (slashNoDefault self style) (slashNoDefault self style) := by
  unfold slashNoDefault; infer_instance
instance alike_slashWithDefault :
    Alike last Eq (slashWithDefault self style) (slashWithDefault self style) := by
  unfold slashWithDefault; infer_instance
instance alike_explainDoubleStar :
    Alike last Eq (explainDoubleStar self style) (explainDoubleStar self style) := by
  unfold explainDoubleStar; infer_instance
instance alike_doubleStar : Alike last Eq (doubleStar self style) (doubleStar self style) := by
  unfold doubleStar; infer_instance
instance alike_explainStar : Alike last Eq (explainStar self style) (explainStar self style) := by
  unfold explainStar; infer_instance
instance alike_starEtc : Alike last Eq (starEtc self style) (starEtc self style) := by
  unfold starEtc; infer_instance
instance alike_explainParameters :
    Alike last Eq (explainParameters self style) (explainParameters self style) := by
  unfold explainParameters; dsimp only; infer_instance
instance alike_parameters : Alike last Eq (parameters self style) (parameters self style) := by
  unfold parameters; infer_instance
instance alike_lambda : Alike last Eq (lambda self) (lambda self) := by
  unfold lambda; infer_instance

/-! ### Expressions -/

instance alike_conditional : Alike last Eq (conditional self) (conditional self) := by
  unfold conditional; infer_instance
instance alike_explainExpression :
    Alike last Eq (explainExpression self) (explainExpression self) := by
  have hpair (p : Lines last) (a : Forest) : Alike last Eq
      (do
        let (t, l) := expressionOf p.first a
        if isOldStatement t then fail
        else if (← depth) = 0 then fail
        else refuse .forgottenComma l : Reader Forest)
      (do
        let (t, l) := expressionOf p.second a
        if isOldStatement t then fail
        else if (← depth) = 0 then fail
        else refuse .forgottenComma l) := by
    obtain ⟨htree, hline⟩ := expressionOf_placed p.near a
    generalize expressionOf p.first a = r at htree hline
    generalize expressionOf p.second a = r' at htree hline
    obtain ⟨t, l⟩ := r
    obtain ⟨t', l'⟩ := r'
    cases htree
    have : LineNear last l l' := hline
    infer_instance
  unfold explainExpression; infer_instance
instance alike_explainOldStatement :
    Alike last Eq (explainOldStatement self) (explainOldStatement self) := by
  refine @alike_explaining _ _ _ _ _ _ (alike_peek_bind fun t t' h => ?_)
  have := h.line
  rw [h.symbol]
  infer_instance
instance alike_expressionRule : Alike last Eq (expressionRule self) (expressionRule self) := by
  unfold expressionRule; infer_instance
instance alike_plainExpressionRule :
    Alike last Eq (plainExpressionRule self) (plainExpressionRule self) := by
  unfold plainExpressionRule; infer_instance
instance alike_explainNamedExpression :
    Alike last Eq (explainNamedExpression self) (explainNamedExpression self) := by
  unfold explainNamedExpression; infer_instance
instance alike_namedExpressionRule :
    Alike last Eq (namedExpressionRule self) (namedExpressionRule self) := by
  unfold namedExpressionRule; infer_instance
instance alike_starExpressionRule :
    Alike last Eq (starExpressionRule self) (starExpressionRule self) := by
  unfold starExpressionRule; infer_instance
instance alike_listed (p : Reader Forest) [Alike last Eq p p] :
    Alike last Eq (listed p) (listed p) := by
  unfold listed; infer_instance
instance alike_expressions : Alike last Eq (expressions self) (expressions self) := by
  unfold expressions; infer_instance

/-! ### Targets -/

instance alike_targetGoesOn : Alike last Eq targetGoesOn targetGoesOn := by
  unfold targetGoesOn; infer_instance
instance alike_targetPrimaryRule :
    Alike last Eq (targetPrimaryRule self) (targetPrimaryRule self) := by
  unfold targetPrimaryRule; infer_instance
instance alike_subscriptAttributeTarget :
    Alike last Eq (subscriptAttributeTarget self) (subscriptAttributeTarget self) := by
  unfold subscriptAttributeTarget; infer_instance
instance alike_starTargetsTuple :
    Alike last Eq (starTargetsTuple self) (starTargetsTuple self) := by
  unfold starTargetsTuple; infer_instance
instance alike_starAtom : Alike last Eq (starAtom self) (starAtom self) := by
  unfold starAtom; infer_instance
instance alike_targetWithStarAtomRule :
    Alike last Eq (targetWithStarAtomRule self) (targetWithStarAtomRule self) := by
  unfold targetWithStarAtomRule; infer_instance
instance alike_starTargetRule : Alike last Eq (starTargetRule self) (starTargetRule self) := by
  unfold starTargetRule; infer_instance
instance alike_starTargetsRule : Alike last Eq (starTargetsRule self) (starTargetsRule self) := by
  unfold starTargetsRule; infer_instance
instance alike_singleTargetRule :
    Alike last Eq (singleTargetRule self) (singleTargetRule self) := by
  unfold singleTargetRule; infer_instance
instance alike_delTargets : Alike last Eq (delTargets self) (delTargets self) := by
  unfold delTargets; infer_instance
instance alike_delTargetRule : Alike last Eq (delTargetRule self) (delTargetRule self) := by
  unfold delTargetRule; infer_instance
instance alike_annotatedTargetRule :
    Alike last Eq (annotatedTargetRule self) (annotatedTargetRule self) := by
  unfold annotatedTargetRule; infer_instance
instance alike_numberOfKind (b : Bool) : Alike last Eq (numberOfKind b) (numberOfKind b) := by
  refine alike_peek_bind fun t t' h => ?_
  have := h.line
  rw [h.text]
  infer_instance
instance alike_signedNumber : Alike last Eq signedNumber signedNumber := by
  unfold signedNumber; infer_instance
instance alike_signedRealNumber : Alike last Eq signedRealNumber signedRealNumber := by
  unfold signedRealNumber; infer_instance
instance alike_complexNumber : Alike last Eq complexNumber complexNumber := by
  unfold complexNumber; infer_instance
instance alike_literalPattern : Alike last Eq (literalPattern self) (literalPattern self) := by
  unfold literalPattern; infer_instance
instance alike_captureTarget : Alike last Eq captureTarget captureTarget := by
  unfold captureTarget; infer_instance
instance alike_dottedAttribute : Alike last Eq dottedAttribute dottedAttribute := by
  unfold dottedAttribute; infer_instance
instance alike_nameOrAttribute : Alike last Eq nameOrAttribute nameOrAttribute := by
  unfold nameOrAttribute; infer_instance
instance alike_maybeStarPattern :
    Alike last Eq (maybeStarPattern self) (maybeStarPattern self) := by
  unfold maybeStarPattern; infer_instance
instance alike_maybeSequencePattern :
    Alike last Eq (maybeSequencePattern self) (maybeSequencePattern self) := by
  unfold maybeSequencePattern; infer_instance
instance alike_openSequencePatternRule :
    Alike last Eq (openSequencePatternRule self) (openSequencePatternRule self) := by
  unfold openSequencePatternRule; infer_instance
instance alike_starPatternRule : Alike last Eq starPatternRule starPatternRule := by
  unfold starPatternRule; infer_instance
instance alike_sequencePattern : Alike last Eq (sequencePattern self) (sequencePattern self) := by
  unfold sequencePattern; infer_instance
instance alike_keyValuePattern : Alike last Eq (keyValuePattern self) (keyValuePattern self) := by
  unfold keyValuePattern; infer_instance
instance alike_mappingPattern : Alike last Eq (mappingPattern self) (mappingPattern self) := by
  unfold mappingPattern; dsimp only; infer_instance
instance alike_positionalPatterns :
    Alike last Eq (positionalPatterns self) (positionalPatterns self) := by
  unfold positionalPatterns; infer_instance
instance alike_keywordPatterns : Alike last Eq (keywordPatterns self) (keywordPatterns self) := by
  unfold keywordPatterns; infer_instance
instance alike_classPattern : Alike last Eq (classPattern self) (classPattern self) := by
  unfold classPattern; infer_instance
instance alike_closedPatternRule :
    Alike last Eq (closedPatternRule self) (closedPatternRule self) := by
  unfold closedPatternRule; infer_instance
instance alike_orPattern : Alike last Eq (orPattern self) (orPattern self) := by
  unfold orPattern; infer_instance
instance alike_explainAsPattern :
    Alike last Eq (explainAsPattern self) (explainAsPattern self) := by
  unfold explainAsPattern; infer_instance
instance alike_patternRule : Alike last Eq (patternRule self) (patternRule self) := by
  unfold patternRule; infer_instance
instance alike_patterns : Alike last Eq (patterns self) (patterns self) := by
  unfold patterns; infer_instance

/-! ### Simple statements -/

instance alike_annotatedValue : Alike last Eq (annotatedValue self) (annotatedValue self) := by
  unfold annotatedValue; infer_instance
instance alike_augmentedMark : Alike last Eq augmentedMark augmentedMark := by
  unfold augmentedMark; infer_instance
instance alike_explainAssignment :
    Alike last Eq (explainAssignment self) (explainAssignment self) := by
  unfold explainAssignment; infer_instance
instance alike_assignment : Alike last Eq (assignment self) (assignment self) := by
  unfold assignment; dsimp only; infer_instance
instance alike_dottedName : Alike last Eq dottedName dottedName := by
  unfold dottedName; infer_instance
instance alike_importName : Alike last Eq importName importName := by
  unfold importName; infer_instance
instance alike_importedNames : Alike last Eq importedNames importedNames := by
  unfold importedNames; infer_instance
instance alike_importTargets : Alike last Eq importTargets importTargets := by
  unfold importTargets; infer_instance
instance alike_importFrom : Alike last Eq importFrom importFrom := by
  unfold importFrom; dsimp only; infer_instance
instance alike_delStatement : Alike last Eq (delStatement self) (delStatement self) := by
  unfold delStatement; infer_instance
instance alike_raiseStatement : Alike last Eq (raiseStatement self) (raiseStatement self) := by
  unfold raiseStatement; infer_instance
instance alike_keyed (k : String) (p : Reader Forest) [Alike last Eq p p] :
    Alike last Eq (keyed k p) (keyed k p) := by
  unfold keyed; infer_instance
instance alike_simpleStatementRule :
    Alike last Eq (simpleStatementRule self) (simpleStatementRule self) := by
  unfold simpleStatementRule; infer_instance
instance alike_simpleStatements :
    Alike last Eq (simpleStatements self) (simpleStatements self) := by
  unfold simpleStatements; infer_instance

/-! ### Suites -/

instance alike_blockRule : Alike last Eq (blockRule self) (blockRule self) := by
  unfold blockRule; infer_instance
instance alike_explainSuite (owner : SuiteOwner) (p : Reader Forest) [Alike last Eq p p] :
    Alike last Eq (explainSuite owner p) (explainSuite owner p) := by
  unfold explainSuite; infer_instance
instance alike_explainColon (p : Reader Forest) [Alike last Eq p p] :
    Alike last Eq (explainColon p) (explainColon p) := by
  unfold explainColon; infer_instance

/-! ### Definitions -/

instance alike_decorators : Alike last Eq (decorators self) (decorators self) := by
  unfold decorators; infer_instance
instance alike_baseClasses : Alike last Eq (baseClasses self) (baseClasses self) := by
  unfold baseClasses; infer_instance
instance alike_rawClass : Alike last Eq (rawClass self) (rawClass self) := by
  unfold rawClass; dsimp only; infer_instance
instance alike_classDefinition : Alike last Eq (classDefinition self) (classDefinition self) := by
  unfold classDefinition; infer_instance
instance alike_rawFunction : Alike last Eq (rawFunction self) (rawFunction self) := by
  unfold rawFunction; dsimp only; infer_instance
instance alike_functionDefinition :
    Alike last Eq (functionDefinition self) (functionDefinition self) := by
  unfold functionDefinition; infer_instance

/-! ### Compound statements -/

instance alike_explainAsyncSuite (owner : SuiteOwner) (p : Reader Forest) [Alike last Eq p p] :
    Alike last Eq (explainAsyncSuite owner p) (explainAsyncSuite owner p) := by
  unfold explainAsyncSuite; infer_instance
instance alike_elseBlock : Alike last Eq (elseBlock self) (elseBlock self) := by
  unfold elseBlock; infer_instance
instance alike_conditionBlock (k : String) :
    Alike last Eq (conditionBlock self k) (conditionBlock self k) := by
  unfold conditionBlock; dsimp only; infer_instance
instance alike_whileStatement : Alike last Eq (whileStatement self) (whileStatement self) := by
  unfold whileStatement; dsimp only; infer_instance
instance alike_forStatement : Alike last Eq (forStatement self) (forStatement self) := by
  unfold forStatement; dsimp only; infer_instance
instance alike_withItem : Alike last Eq (withItem self) (withItem self) := by
  unfold withItem; infer_instance
instance alike_withStatement : Alike last Eq (withStatement self) (withStatement self) := by
  unfold withStatement; dsimp only; infer_instance
instance alike_finallyBlock : Alike last Eq (finallyBlock self) (finallyBlock self) := by
  unfold finallyBlock; infer_instance
instance alike_explainHandler : Alike last Eq (explainHandler self) (explainHandler self) := by
  unfold explainHandler; dsimp only; infer_instance
instance alike_exceptBlock : Alike last Eq (exceptBlock self) (exceptBlock self) := by
  unfold exceptBlock; dsimp only; infer_instance
instance alike_exceptStarBlock : Alike last Eq (exceptStarBlock self) (exceptStarBlock self) := by
  unfold exceptStarBlock; dsimp only; infer_instance
instance alike_tryStatement : Alike last Eq (tryStatement self) (tryStatement self) := by
  unfold tryStatement; dsimp only; infer_instance
instance alike_caseBlock : Alike last Eq (caseBlock self) (caseBlock self) := by
  unfold caseBlock; dsimp only; infer_instance
instance alike_matchStatement : Alike last Eq (matchStatement self) (matchStatement self) := by
  unfold matchStatement; dsimp only; infer_instance
instance alike_compoundStatement :
    Alike last Eq (compoundStatement self) (compoundStatement self) := by
  unfold compoundStatement; infer_instance
instance alike_statementsRule : Alike last Eq (statementsRule self) (statementsRule self) := by
  unfold statementsRule; infer_instance

/-! ### All rules -/

theorem alike_step (r : Rule) : Alike last Eq (step self r) (step self r) := by
  cases r <;> (unfold step; dsimp only; infer_instance)

end Docent.Indented
