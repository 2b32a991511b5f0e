import HttpBinding.Proofs.Source.Written.Expressions

/-!
The readers of items and their members are faithful, as long as the grammar is; so the grammar
is faithful at every depth, by induction on it.
-/
namespace HttpBinding.Source

open Reader Tokens

set_option synthInstance.maxSize 20000

variable (text : Tokens) (grammar : Grammar) [FaithfulGrammar text grammar]

/-! Member -/

instance faithful_receiver : Faithful text (receiver grammar) := by
  unfold receiver
  infer_instance

instance faithful_argument : Faithful text (argument grammar) := by
  unfold argument
  refine .bind inferInstance fun variadic _ => ?_
  split
  · infer_instance
  · refine .bind inferInstance fun found stands => ?_
    cases found with
    | none => infer_instance
    | some trees =>
        have := stands.of_some
        infer_instance

instance faithful_arguments : Faithful text (arguments grammar) := by
  unfold arguments
  infer_instance

instance faithful_signature (allowSafe : Bool) : Faithful text (signature grammar allowSafe) := by
  unfold signature
  infer_instance

instance faithful_body : Faithful text (body grammar) := by
  unfold body
  infer_instance

instance faithful_constant : Faithful text (constant grammar) := by
  unfold constant
  infer_instance

instance faithful_optionalBounds (stop : Tokens → Bool) :
    Faithful text (optionalBounds grammar stop) := by
  unfold optionalBounds
  infer_instance

instance faithful_typeAlias (place : WherePlace) : Faithful text (typeAlias grammar place) := by
  unfold typeAlias
  infer_instance

instance faithful_namedField : Faithful text (namedField grammar) := by
  unfold namedField
  infer_instance

instance faithful_fieldsRule : Faithful text (fieldsRule grammar) := by
  unfold fieldsRule
  infer_instance

instance faithful_numberedField : Faithful text (numberedField grammar) := by
  unfold numberedField
  infer_instance

instance faithful_numberedFields : Faithful text (numberedFields grammar) := by
  unfold numberedFields
  infer_instance

instance faithful_memberCall : Faithful text (memberCall) := by
  unfold memberCall
  refine faithful_of_behind _ _ fun name front behind _ read => ?_
  obtain ⟨path, whole, named⟩ := writtenPath_of_plainPath _ _ _ read
  obtain rfl := List.append_cancel_right whole
  exact faithfulBehind_call front name named _ fun _ _ => inferInstance

/-! Item -/

instance faithful_attributed (content : Reader ItemBody) [Faithful text content] :
    Faithful text (attributed grammar content) := by
  unfold attributed
  infer_instance

instance faithful_members (goal : Goal) [Stands text goal] : Faithful text (members grammar goal) := by
  unfold members
  infer_instance

instance faithful_implFunction : Faithful text (implFunction grammar) := by
  unfold implFunction
  infer_instance

instance faithful_constantItem (shown : Tree) [Stands text shown] :
    Faithful text (constantItem grammar shown) := by
  unfold constantItem
  refine .bind inferInstance fun _ _ => .bind inferInstance fun found _ => ?_
  split
  · rename_i value same
    have := (stands_constantValue text found).of_eq_some same
    infer_instance
  · infer_instance

instance faithful_implType : Faithful text (implType grammar) := by
  unfold implType
  refine .bind inferInstance fun shown _ => .bind inferInstance fun _ _ => ?_
  refine .bind inferInstance fun found _ => ?_
  split
  · rename_i type same
    have := (stands_aliasType text found).of_eq_some same
    infer_instance
  · infer_instance

instance faithful_implMember : Faithful text (implMember grammar) := by
  unfold implMember
  infer_instance

instance faithful_traitFunction : Faithful text (traitFunction grammar) := by
  unfold traitFunction
  infer_instance

instance faithful_traitConstant : Faithful text (traitConstant grammar) := by
  unfold traitConstant
  infer_instance

instance faithful_traitType : Faithful text (traitType grammar) := by
  unfold traitType
  infer_instance

instance faithful_traitMember : Faithful text (traitMember grammar) := by
  unfold traitMember
  infer_instance

instance faithful_foreignFunction (shown : Tree) [Stands text shown] :
    Faithful text (foreignFunction grammar shown) := by
  unfold foreignFunction
  infer_instance

instance faithful_foreignStatic (shown : Tree) [Stands text shown] :
    Faithful text (foreignStatic grammar shown) := by
  unfold foreignStatic
  infer_instance

instance faithful_foreignType (shown : Tree) [Stands text shown] :
    Faithful text (foreignType grammar shown) := by
  unfold foreignType
  infer_instance

instance faithful_foreignMember : Faithful text (foreignMember grammar) := by
  unfold foreignMember
  infer_instance

instance faithful_functionItem (shown : Tree) [Stands text shown] :
    Faithful text (functionItem grammar shown) := by
  unfold functionItem
  infer_instance

instance faithful_externCrate (shown : Tree) [Stands text shown] :
    Faithful text (externCrate shown) := by
  unfold externCrate
  infer_instance

instance faithful_foreignBlock : Faithful text (foreignBlock grammar) := by
  unfold foreignBlock
  infer_instance

instance faithful_externItem (shown : Tree) [Stands text shown] :
    Faithful text (externItem grammar shown) := by
  unfold externItem
  infer_instance

instance faithful_useItem (shown : Tree) [Stands text shown] : Faithful text (useItem shown) := by
  unfold useItem
  infer_instance

instance faithful_staticItem (shown : Tree) [Stands text shown] :
    Faithful text (staticItem grammar shown) := by
  unfold staticItem
  infer_instance

instance faithful_moduleItem (shown : Tree) [Stands text shown] :
    Faithful text (moduleItem grammar shown) := by
  unfold moduleItem
  infer_instance

instance faithful_typeItem (shown : Tree) [Stands text shown] :
    Faithful text (typeItem grammar shown) := by
  unfold typeItem
  refine .bind inferInstance fun found _ => ?_
  split
  · rename_i type same
    have := (stands_aliasType text found).of_eq_some same
    infer_instance
  · infer_instance

instance faithful_structureBody : Faithful text (structureBody grammar) := by
  unfold structureBody
  infer_instance

instance faithful_structureItem (shown : Tree) [Stands text shown] :
    Faithful text (structureItem grammar shown) := by
  unfold structureItem
  infer_instance

instance faithful_variant : Faithful text (variant grammar) := by
  unfold variant
  infer_instance

instance faithful_enumItem (shown : Tree) [Stands text shown] :
    Faithful text (enumItem grammar shown) := by
  unfold enumItem
  infer_instance

instance faithful_unionItem (shown : Tree) [Stands text shown] :
    Faithful text (unionItem grammar shown) := by
  unfold unionItem
  infer_instance

instance faithful_traitRest (shown : Tree) (parameters : Option (List Tree))
    [Stands text shown] [Stands text parameters] :
    Faithful text (traitRest grammar shown parameters) := by
  unfold traitRest
  infer_instance

instance faithful_traitAliasRest (shown : Tree) (parameters : Option (List Tree))
    [Stands text shown] [Stands text parameters] :
    Faithful text (traitAliasRest grammar shown parameters) := by
  unfold traitAliasRest
  infer_instance

instance faithful_traitItem (shown : Tree) [Stands text shown] :
    Faithful text (traitItem grammar shown) := by
  unfold traitItem
  infer_instance

instance faithful_implHead : Faithful text (implHead grammar) := by
  unfold implHead
  infer_instance

instance faithful_implItem (shown : Tree) [Stands text shown] :
    Faithful text (implItem grammar shown) := by
  unfold implItem
  infer_instance

instance faithful_macroItem : Faithful text (macroItem) := by
  unfold macroItem
  infer_instance

theorem word_of_seesDefiningCall (joint : Bool) (mark : Span) (tokens : Tokens)
    (seen : seesDefiningCall (.mark '!' joint mark :: tokens) = true) :
    ∃ word span rest, tokens = .word word span :: rest := by
  rw [seesDefiningCall, Bool.and_eq_true, Bool.or_eq_true] at seen
  have second : behind (.mark '!' joint mark :: tokens) = tokens := by
    cases tokens with
    | nil => rfl
    | cons token rest => cases token <;> rfl
  rw [second] at seen
  cases tokens with
  | nil => cases seen.2 <;> contradiction
  | cons token rest =>
      cases token with
      | word word span => exact ⟨word, span, rest, rfl⟩
      | mark => cases seen.2 <;> contradiction
      | literal => cases seen.2 <;> contradiction
      | group => cases seen.2 <;> contradiction

instance faithful_callItem : Faithful text (callItem) := by
  unfold callItem
  refine faithful_of_behind _ _ fun name front _ _ read => ?_
  obtain ⟨path, whole, named⟩ := writtenPath_of_plainPath _ _ _ read
  obtain rfl := List.append_cancel_right whole
  intro taken rest value inside read
  simp only [reads_bind_iff, reads_test_iff] at read
  obtain ⟨defines, _, ⟨seen, rfl⟩, _, between, bang, read⟩ := read
  obtain ⟨joint, mark, whole⟩ := reads_mark "!" '!' rfl _ _ _ bang
  rw [whole] at seen
  cases defines with
  | false =>
      simp only [Bool.false_eq_true, ↓reduceIte, reads_bind_iff] at read
      obtain ⟨found, behind, called, read⟩ := read
      obtain ⟨arguments, span, rfl, call⟩ := reads_macroArguments _ _ _ _ called
      refine stands_behind_call front [.mark '!' joint mark] behind taken rest arguments name
        found.1 span value _ inside whole (.plain joint mark span found.1 named) read fun stands => ?_
      rw [← call] at stands
      infer_instance
  | true =>
      obtain ⟨word, place, after, rfl⟩ := word_of_seesDefiningCall joint mark between seen
      simp only [↓reduceIte, reads_bind_iff, reads_drop_iff] at read
      obtain ⟨_, _, rfl, found, behind, called, read⟩ := read
      obtain ⟨arguments, span, grouped, call⟩ := reads_macroArguments _ _ _ _ called
      obtain rfl : after = .group found.1 arguments span :: behind := grouped
      refine stands_behind_call front [.mark '!' joint mark, .word word place] behind taken rest
        arguments name found.1 span value _ inside whole
        (.defining joint mark place span word found.1 named) read fun stands => ?_
      rw [← call] at stands
      infer_instance

instance faithful_unsafeItem (shown : Tree) [Stands text shown] :
    Faithful text (unsafeItem grammar shown) := by
  unfold unsafeItem
  infer_instance

instance faithful_itemBody : Faithful text (itemBody grammar) := by
  unfold itemBody
  infer_instance

instance faithful_itemAsRead : Faithful text (itemAsRead grammar) := by
  unfold itemAsRead
  infer_instance

instance faithful_itemRule : Faithful text (itemRule grammar) := by
  unfold itemRule
  infer_instance

/-! The grammar -/

instance faithfulGrammar_rules : FaithfulGrammar text (rules grammar) where
  faithful goal stands := by
    cases goal with
    | operators left structs base =>
        have : Stands text left := ⟨stands.written⟩
        exact faithful_operatorsRule text grammar left structs base
    | expression structs => exact faithful_expressionRule text grammar structs
    | bareExpression => exact faithful_bareExpressionRule text grammar
    | unary structs => exact faithful_unaryRule text grammar structs
    | expressions => exact faithful_expressionsRule text grammar
    | type plus => exact faithful_typeRule text grammar plus
    | bound capture const => exact faithful_bound text grammar capture const
    | pattern => exact faithful_patternRule text grammar
    | alternatives => exact faithful_alternativesRule text grammar
    | statements => exact faithful_statementsRule text grammar
    | fields => exact faithful_fieldsRule text grammar
    | item => exact faithful_itemRule text grammar
    | traitItem => exact faithful_attributed text grammar (traitMember grammar)
    | implItem => exact faithful_attributed text grammar (implMember grammar)
    | foreignItem => exact faithful_attributed text grammar (foreignMember grammar)

instance faithfulGrammar_grammarTo (depth : Nat) : FaithfulGrammar text (grammarTo depth) := by
  induction depth with
  | zero => exact ⟨fun _ _ => faithful_failure text⟩
  | succ depth ih => exact faithfulGrammar_rules text (grammarTo depth)

end HttpBinding.Source
