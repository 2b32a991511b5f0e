import HttpBinding.Proofs.Source.Written.Types

/-!
The readers of patterns, expressions and statements are faithful, as long as the grammar is.
-/
namespace HttpBinding.Source

open Reader Tokens

set_option synthInstance.maxSize 20000

variable (text : Tokens) (grammar : Grammar) [FaithfulGrammar text grammar]

/-! Pattern -/

instance faithful_constantPattern : Faithful text (constantPattern grammar) := by
  unfold constantPattern
  infer_instance

instance faithful_patternBound : Faithful text (patternBound grammar) := by
  unfold patternBound
  infer_instance

instance faithful_patternRangeRest (start : List Tree) [Stands text start] :
    Faithful text (patternRangeRest grammar start) := by
  unfold patternRangeRest
  refine .bind inferInstance fun closed _ => .bind inferInstance fun found stands => ?_
  cases found with
  | none => infer_instance
  | some bound =>
      have := stands.of_some
      infer_instance

instance faithful_halfOpenPattern : Faithful text (halfOpenPattern grammar) := by
  unfold halfOpenPattern
  refine .bind inferInstance fun closed _ => .bind inferInstance fun found stands => ?_
  cases found with
  | none => infer_instance
  | some bound =>
      have := stands.of_some
      infer_instance

instance faithful_literalPattern : Faithful text (literalPattern grammar) := by
  unfold literalPattern
  refine .bind inferInstance fun found stands => ?_
  cases found with
  | none => infer_instance
  | some start =>
      have := stands.of_some
      infer_instance

instance faithful_fieldPattern : Faithful text (fieldPattern grammar) := by
  unfold fieldPattern
  infer_instance

instance faithful_fieldPatterns : Faithful text (fieldPatterns grammar) := by
  unfold fieldPatterns
  infer_instance

instance faithful_pathPattern : Faithful text (pathPattern grammar) := by
  unfold pathPattern
  refine faithful_of_behind _ _ fun (qualifier, found) front behind stands read => ?_
  refine faithfulBehind_ahead front _ fun tokens => ?_
  have : Stands text qualifier := stands_fst text (qualifier, found)
  have : Stands text found := stands_snd text (qualifier, found)
  split
  · rename_i called
    simp only [Bool.and_eq_true] at called
    obtain ⟨path, whole, named⟩ :=
      writtenPath_of_qualifiedPath grammar true _ _ qualifier found read called.1.1.1 called.2
    obtain rfl := List.append_cancel_right whole
    exact faithfulBehind_call front _ named _ fun _ _ => inferInstance
  · exact faithfulBehind_of_faithful front _

instance faithful_bindingPattern : Faithful text (bindingPattern grammar) := by
  unfold bindingPattern
  infer_instance

instance faithful_slicePattern : Faithful text (slicePattern grammar) := by
  unfold slicePattern
  infer_instance

instance faithful_patternRule : Faithful text (patternRule grammar) := by
  unfold patternRule
  infer_instance

instance faithful_alternativesRule : Faithful text (alternativesRule grammar) := by
  unfold alternativesRule
  infer_instance

/-! Expression -/

instance faithful_rightOperand (structs : Bool) (precedence : Precedence) :
    Faithful text (rightOperand grammar structs precedence) := by
  unfold rightOperand
  infer_instance

instance faithful_rangeEnd (structs : Bool) : Faithful text (rangeEnd grammar structs) := by
  unfold rangeEnd
  infer_instance

instance faithful_operatorsRule (left : Tree) (structs : Bool) (base : Precedence) [Stands text left] :
    Faithful text (operatorsRule grammar left structs base) := by
  unfold operatorsRule
  refine @faithful_untilDone _ _ _ _ text _ left inferInstance fun ⟨left, stands⟩ => ?_
  refine .bind inferInstance fun tokens _ => ?_
  dsimp only
  split
  · infer_instance
  · split
    · infer_instance
    · infer_instance

instance faithful_expressionRule (structs : Bool) :
    Faithful text (expressionRule grammar structs) := by
  unfold expressionRule
  infer_instance

instance faithful_callArguments : Faithful text (callArguments grammar) := by
  unfold callArguments
  infer_instance

instance faithful_memberAccess (base : Tree) [Stands text base] :
    Faithful text (memberAccess grammar base) := by
  unfold memberAccess
  infer_instance

instance faithful_trailers (start : Tree) [Stands text start] :
    Faithful text (trailers grammar start) := by
  unfold trailers
  infer_instance

instance faithful_blockWith (front : List Tree) [Stands text front] :
    Faithful text (blockWith grammar front) := by
  unfold blockWith
  infer_instance

instance faithful_ifExpression : Faithful text (ifExpression grammar) := by
  unfold ifExpression
  infer_instance

instance faithful_whileExpression : Faithful text (whileExpression grammar) := by
  unfold whileExpression
  infer_instance

instance faithful_forExpression : Faithful text (forExpression grammar) := by
  unfold forExpression
  infer_instance

instance faithful_loopExpression : Faithful text (loopExpression grammar) := by
  unfold loopExpression
  infer_instance

instance faithful_arm : Faithful text (arm grammar) := by
  unfold arm
  infer_instance

instance faithful_matchExpression : Faithful text (matchExpression grammar) := by
  unfold matchExpression
  infer_instance

instance faithful_labeledExpression : Faithful text (labeledExpression grammar) := by
  unfold labeledExpression
  infer_instance

instance faithful_closureArgument : Faithful text (closureArgument grammar) := by
  unfold closureArgument
  infer_instance

instance faithful_closure (structs : Bool) : Faithful text (closure grammar structs) := by
  unfold closure
  infer_instance

instance faithful_jumpValue : Faithful text (jumpValue grammar) := by
  unfold jumpValue
  infer_instance

instance faithful_breakExpression (structs : Bool) :
    Faithful text (breakExpression grammar structs) := by
  unfold breakExpression
  infer_instance

instance faithful_fieldValue : Faithful text (fieldValue grammar) := by
  unfold fieldValue
  refine .bind inferInstance fun attributes _ => .bind inferInstance fun found _ => ?_
  refine .bind inferInstance fun colon _ => ?_
  split <;> infer_instance

instance faithful_fieldValues : Faithful text (fieldValues grammar) := by
  unfold fieldValues
  infer_instance

instance faithful_pathOperand (structs : Bool) : Faithful text (pathOperand grammar structs) := by
  unfold pathOperand
  refine faithful_of_behind _ _ fun (qualifier, found) front behind stands read => ?_
  refine faithfulBehind_ahead front _ fun tokens => ?_
  have : Stands text qualifier := stands_fst text (qualifier, found)
  have : Stands text found := stands_snd text (qualifier, found)
  dsimp only
  split
  · rename_i called
    simp only [Bool.and_eq_true] at called
    obtain ⟨path, whole, named⟩ :=
      writtenPath_of_qualifiedPath grammar true _ _ qualifier found read called.1.1.1 called.2
    obtain rfl := List.append_cancel_right whole
    exact faithfulBehind_call front _ named _ fun _ _ => inferInstance
  · exact faithfulBehind_of_faithful front _

instance faithful_arrayContent : Faithful text (arrayContent grammar) := by
  unfold arrayContent
  infer_instance

instance faithful_letExpression (structs : Bool) :
    Faithful text (letExpression grammar structs) := by
  unfold letExpression
  infer_instance

instance faithful_keywordOperand (structs : Bool) :
    Faithful text (keywordOperand grammar structs) := by
  unfold keywordOperand
  infer_instance

instance faithful_atom (structs : Bool) : Faithful text (atom grammar structs) := by
  unfold atom
  infer_instance

instance faithful_trailed (structs : Bool) (attributes : List Tree) [Stands text attributes] :
    Faithful text (trailed grammar structs attributes) := by
  unfold trailed
  infer_instance

instance faithful_unaryRule (structs : Bool) : Faithful text (unaryRule grammar structs) := by
  unfold unaryRule
  infer_instance

instance faithful_blockLike : Faithful text (blockLike grammar) := by
  unfold blockLike
  infer_instance

instance faithful_bareExpressionRule : Faithful text (bareExpressionRule grammar) := by
  unfold bareExpressionRule
  refine .bind inferInstance fun attributes _ => .bind inferInstance fun found stands => ?_
  cases found with
  | none => infer_instance
  | some block =>
      have := stands.of_some
      infer_instance

instance faithful_expressionsRule : Faithful text (expressionsRule grammar) := by
  unfold expressionsRule
  infer_instance

/-! Statement -/

instance faithful_letStatement (attributes : List Tree) [Stands text attributes] :
    Faithful text (letStatement grammar attributes) := by
  unfold letStatement
  infer_instance

instance faithful_callStatement (attributes : List Tree) [Stands text attributes] :
    Faithful text (callStatement attributes) := by
  unfold callStatement
  refine faithful_of_behind _ _ fun name front behind _ read => ?_
  obtain ⟨path, whole, named⟩ := writtenPath_of_plainPath _ _ _ read
  obtain rfl := List.append_cancel_right whole
  exact faithfulBehind_call front name named _ fun _ _ => inferInstance

instance faithful_expressionStatement (attributes : List Tree) [Stands text attributes] :
    Faithful text (expressionStatement grammar attributes) := by
  unfold expressionStatement
  infer_instance

instance faithful_statement : Faithful text (statement grammar) := by
  unfold statement
  infer_instance

instance faithful_statementsRule : Faithful text (statementsRule grammar) := by
  unfold statementsRule
  infer_instance

end HttpBinding.Source
