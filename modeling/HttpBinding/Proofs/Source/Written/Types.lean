import HttpBinding.Proofs.Source.Written.Names

/-!
The readers of paths, bounds and types are faithful, as long as the grammar is.
-/
namespace HttpBinding.Source

open Reader Tokens

set_option synthInstance.maxSize 8000

variable (text : Tokens) (grammar : Grammar) [FaithfulGrammar text grammar]

/-! Attribute -/

instance faithful_plainPath : Faithful text (plainPath) := by
  unfold plainPath
  infer_instance

instance faithful_restrictedVisibility : Faithful text (restrictedVisibility) := by
  unfold restrictedVisibility
  infer_instance

instance faithful_visibility : Faithful text (visibility) := by
  unfold visibility
  infer_instance

/-! Path -/

instance faithful_blockParts : Faithful text (blockParts grammar) := by
  unfold blockParts
  infer_instance

instance faithful_plainBlock : Faithful text (plainBlock grammar) := by
  unfold plainBlock
  infer_instance

instance faithful_constArgument : Faithful text (constArgument grammar) := by
  unfold constArgument
  infer_instance

omit [FaithfulGrammar text grammar] in
theorem stands_of_singleName (type : Tree) (arguments : List Tree) [stands : Stands text type]
    (single : singleName? type = some arguments) : Stands text arguments := by
  unfold singleName? at single
  split at single
  · rename_i name style written
    obtain rfl := Option.some.inj single
    have path : Stands text (Tree.path false [name] style written) :=
      stands.children.of_subset (by simp [Holds.trees])
    exact path.arguments
  · cases single

instance faithful_genericArgument : Faithful text (genericArgument grammar) := by
  unfold genericArgument
  refine .bind inferInstance fun tokens _ => ?_
  split
  · infer_instance
  · split
    · infer_instance
    · refine .bind inferInstance fun type stands => ?_
      split
      · infer_instance
      · rename_i arguments single
        have := stands_of_singleName text type arguments single
        infer_instance

instance faithful_angledArguments : Faithful text (angledArguments grammar) := by
  unfold angledArguments
  infer_instance

instance faithful_segment (inExpression : Bool) : Faithful text (segment grammar inExpression) := by
  unfold segment
  infer_instance

instance faithful_moreSegments (inExpression : Bool) :
    Faithful text (moreSegments grammar inExpression) := by
  unfold moreSegments
  infer_instance

instance faithful_path (inExpression : Bool) : Faithful text (path grammar inExpression) := by
  unfold path
  infer_instance

instance faithful_qualifiedRest (inExpression : Bool) :
    Faithful text (qualifiedRest grammar inExpression) := by
  unfold qualifiedRest
  infer_instance

instance faithful_qualifiedPath (inExpression : Bool) :
    Faithful text (qualifiedPath grammar inExpression) := by
  unfold qualifiedPath
  refine .bind inferInstance fun opened _ => ?_
  split
  · refine .bind inferInstance fun type _ => .bind inferInstance fun base stands => ?_
    refine .bind inferInstance fun _ _ => .bind inferInstance fun _ _ => ?_
    refine .bind inferInstance fun rest _ => ?_
    cases base with
    | none => infer_instance
    | some base =>
        have := stands.of_some
        infer_instance
  · infer_instance

/-! Bound -/

instance faithful_lifetimeParameter : Faithful text (lifetimeParameter grammar) := by
  unfold lifetimeParameter
  infer_instance

instance faithful_typeParameter : Faithful text (typeParameter grammar) := by
  unfold typeParameter
  infer_instance

instance faithful_constParameter : Faithful text (constParameter grammar) := by
  unfold constParameter
  infer_instance

instance faithful_genericParameter : Faithful text (genericParameter grammar) := by
  unfold genericParameter
  infer_instance

instance faithful_boundLifetimes : Faithful text (boundLifetimes grammar) := by
  unfold boundLifetimes
  infer_instance

instance faithful_optionalBoundLifetimes : Faithful text (optionalBoundLifetimes grammar) := by
  unfold optionalBoundLifetimes
  infer_instance

instance faithful_returnType (plus : Bool) : Faithful text (returnType grammar plus) := by
  unfold returnType
  infer_instance

instance faithful_parenthesizedArguments : Faithful text (parenthesizedArguments grammar) := by
  unfold parenthesizedArguments
  infer_instance

instance faithful_traitBound (const : Bool) : Faithful text (traitBound grammar const) := by
  unfold traitBound
  infer_instance

instance faithful_bound (capture : Bool) (const : Bool) :
    Faithful text (bound grammar capture const) := by
  unfold bound
  infer_instance

instance faithful_bounds (plus : Bool) (capture : Bool) (const : Bool) :
    Faithful text (bounds grammar plus capture const) := by
  unfold bounds
  infer_instance

instance faithful_openParameter : Faithful text (openParameter grammar) := by
  unfold openParameter
  infer_instance

instance faithful_generics : Faithful text (generics grammar) := by
  unfold generics
  infer_instance

instance faithful_wherePredicate : Faithful text (wherePredicate grammar) := by
  unfold wherePredicate
  infer_instance

instance faithful_optionalWhere : Faithful text (optionalWhere grammar) := by
  unfold optionalWhere
  infer_instance

/-! Type -/

instance faithful_traitObject (plus : Bool) : Faithful text (traitObject grammar plus) := by
  unfold traitObject
  infer_instance

instance faithful_bareArgument (allowSelf : Bool) :
    Faithful text (bareArgument grammar allowSelf) := by
  unfold bareArgument
  infer_instance

instance faithful_bareArguments : Faithful text (bareArguments grammar) := by
  unfold bareArguments
  infer_instance

instance faithful_bareFunction : Faithful text (bareFunction grammar) := by
  unfold bareFunction
  infer_instance

instance faithful_plusBounds : Faithful text (plusBounds grammar) := by
  unfold plusBounds
  infer_instance

instance faithful_looseBounds : Faithful text (looseBounds grammar) := by
  unfold looseBounds
  infer_instance

instance faithful_parenthesizedType (plus : Bool) :
    Faithful text (parenthesizedType grammar plus) := by
  unfold parenthesizedType
  refine .bind inferInstance fun _ _ => faithful_anyGroup_bind text _ fun delimiter content inside => ?_
  dsimp only
  split
  · infer_instance
  split
  · split
    · rename_i inner read
      have := stands_of_whole text (traitObject grammar true) content inner inside read
      infer_instance
    · infer_instance
  split
  · split
    · rename_i first read
      have := stands_of_whole text (traitBound grammar false) content first inside read
      infer_instance
    · infer_instance
  split
  · infer_instance
  rename_i first rest onward read
  have := stands_of_reads text (grammar (.type true)) content rest first inside ⟨onward, read⟩
  split
  · split
    · rename_i more read
      have := stands_of_whole text _ rest more (inside.of_infix onward.isInfix) read
      infer_instance
    · infer_instance
  · infer_instance

instance faithful_namedType (lifetimes : Option (List Tree)) (plus : Bool) [Stands text lifetimes] :
    Faithful text (namedType grammar lifetimes plus) := by
  unfold namedType
  refine faithful_of_behind _ _ fun (qualifier, found) front behind stands read => ?_
  refine faithfulBehind_ahead front _ fun tokens => ?_
  have : Stands text found := stands_snd text (qualifier, found)
  cases qualifier with
  | some qualifier =>
      have : Stands text qualifier := (stands_fst text (some qualifier, found)).of_some
      exact faithfulBehind_of_faithful front _
  | none =>
      dsimp only
      split
      · rename_i called
        simp only [Bool.and_eq_true] at called
        obtain ⟨path, whole, named⟩ :=
          writtenPath_of_qualifiedPath grammar false _ _ none found read rfl called.2
        obtain rfl := List.append_cancel_right whole
        exact faithfulBehind_call front _ named _ fun _ _ => inferInstance
      · refine @faithfulBehind_of_faithful _ _ _ front _ ?_
        split
        · split
          · refine .bind inferInstance fun (among, more) _ => ?_
            have : Stands text more := stands_snd text (among, more)
            cases among <;> infer_instance
          · infer_instance
        · infer_instance

instance faithful_bracketType : Faithful text (bracketType grammar) := by
  unfold bracketType
  infer_instance

instance faithful_pointerType : Faithful text (pointerType grammar) := by
  unfold pointerType
  infer_instance

instance faithful_referenceType : Faithful text (referenceType grammar) := by
  unfold referenceType
  infer_instance

instance faithful_dynType (plus : Bool) : Faithful text (dynType grammar plus) := by
  unfold dynType
  infer_instance

instance faithful_builtinType : Faithful text (builtinType) := by
  unfold builtinType
  infer_instance

instance faithful_typeRule (plus : Bool) : Faithful text (typeRule grammar plus) := by
  unfold typeRule
  infer_instance

end HttpBinding.Source
