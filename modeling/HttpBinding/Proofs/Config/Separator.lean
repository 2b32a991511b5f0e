import HttpBinding.Config.Choices
import HttpBinding.Proofs.Model.Composition
import HttpBinding.Proofs.Model.PathVariables
import HttpBinding.Proofs.Source.Literal

/-!
The configured separator in generated code. A configuration chooses a separator that is not
empty, and a repeated field of the path or the query is split at a literal that denotes just
this separator, whatever its characters.
-/
namespace HttpBinding.Model

open Service (FieldDef MessageDef MethodDef Rule Scalar ServiceDef)
open Source.Literal (IsLiteral)

/-! Literals -/

/-- What a literal of the generated code denotes: a character where the separator has no
other, else a text. -/
inductive Denotes (literal separator : String) : Prop where
  | char (c : Char) (single : separator = String.singleton c) (token : IsLiteral .char literal)
      (value : Text.unquoteChar? literal = some c) : Denotes literal separator
  | text (several : separator.length ≠ 1) (token : IsLiteral .text literal)
      (value : Text.unquoteText? literal = some separator) : Denotes literal separator

theorem separatorLiteral_denotes (separator : String) :
    Denotes (Conversion.separatorLiteral separator) separator := by
  unfold Conversion.separatorLiteral
  split
  · rename_i c written
    have single : separator = String.singleton c := by
      rw [← String.toList_inj, written, String.toList_singleton]
    exact .char c single (Source.Literal.isLiteral_quotedChar c) (Text.unquoteChar?_quotedChar c)
  · rename_i several
    refine .text ?_ (Source.Literal.isLiteral_quotedText separator)
      (Text.unquoteText?_quotedText separator)
    rw [← String.length_toList, Ne, List.length_eq_one_iff]
    rintro ⟨c, written⟩
    exact several c written

/-! Fields -/

/-- The statement of a repeated field: its raw text is split at the separator, and the items
are read one by one, into a result if reading one may fail. -/
def SplitsAt (separator : String) (field : Field) : Prop :=
  ∃ literal scalar, Denotes literal separator ∧ field.type = .scalar scalar ∧
    field.statement = "let " ++ field.localName ++ " = " ++ field.localName ++ "Str.split("
      ++ literal ++ ").map(" ++ Conversion.parseFunction scalar ++ ").collect::<"
      ++ (if field.needsCheck then "Result<Vec<_>, _>" else "Vec<_>") ++ ">()"

theorem splitsAt_fieldOf (separator bindingLabel : String) (rule : Rule) (definition : FieldDef)
    (scalar : Scalar) (typed : definition.type = .scalar scalar)
    (repeated : definition.repeated = true)
    (read : (fieldOf separator bindingLabel rule definition).location = .path ∨
      (fieldOf separator bindingLabel rule definition).location = .query) :
    SplitsAt separator (fieldOf separator bindingLabel rule definition) := by
  have conversion := conversion?_of_read definition _ (camelForm definition ++ bindingLabel)
    separator scalar typed read
  have statement : (fieldOf separator bindingLabel rule definition).statement
      = (Conversion.make scalar true (camelForm definition ++ bindingLabel) separator).statement := by
    rw [← repeated, ← Option.getD_some (a := Conversion.statement _) (b := ""), ← Option.map_some,
      ← conversion]
    rfl
  refine ⟨Conversion.separatorLiteral separator, scalar, separatorLiteral_denotes separator,
    typed, ?_⟩
  rw [statement, (fieldOf_of_read separator bindingLabel rule definition scalar typed read).2.2,
    localName_fieldOf]
  simp [Conversion.make, Conversion.splitExpression, Conversion.collection, String.append_assoc]

theorem splitsAt_of_built (service : ServiceDef) (separator : String) (built : BoundService)
    (success : buildService service separator = .ok built) (method : Method)
    (ofService : method ∈ built.methods) (binding : Binding) (ofMethod : binding ∈ method.bindings)
    (field : Field) (ofBinding : field ∈ binding.fields) (repeated : field.repeated = true)
    (read : field.location = .path ∨ field.location = .query) :
    SplitsAt separator field := by
  obtain ⟨definition, _, request, _, made⟩ :=
    builtIn_of_mem service separator built success method ofService
  obtain ⟨accepted, rfl⟩ := (buildMethod_ok_iff definition request separator method).mp made
  obtain ⟨rule, annotated, position, rfl⟩ :=
    mem_bindings_methodOf definition request separator binding ofMethod
  obtain ⟨declared, member, rfl⟩ := List.mem_map.mp ofBinding
  -- Only a scalar is read from a text, so the field has a conversion.
  have scalar := isScalar_of_read request rule (accepted rule annotated) separator
    (label definition.name position) declared member read
  obtain ⟨kind, typed⟩ := (isScalar_iff _).mp scalar
  exact splitsAt_fieldOf separator _ rule declared kind typed repeated read

end HttpBinding.Model

namespace HttpBinding.Config

open Model (SplitsAt)
open Service (ServiceDef)

theorem separatorOfValue_ok_iff (value : Option String) (chosen : String) :
    separatorOfValue value = .ok chosen ↔
      chosen = value.getD Model.defaultSeparator ∧ chosen ≠ "" := by
  unfold separatorOfValue
  split
  · have filled : Model.defaultSeparator ≠ "" := by decide
    grind
  · simp
  · rename_i text filled
    grind

theorem choices_ok_iff (config : Config) (choices : Choices) :
    config.choices = .ok choices ↔
      Source.ofValue (config.get? helperSource) = .ok choices.source ∧
        separatorOfValue (config.get? separator) = .ok choices.separator := by
  obtain ⟨source, separator⟩ := choices
  unfold Config.choices
  cases chosen : Source.ofValue (config.get? helperSource) with
  | error error => simp [bind, Except.bind]
  | ok found =>
      cases separated : separatorOfValue (config.get? Config.separator) with
      | error error => simp [bind, Except.bind]
      | ok text => simp [bind, Except.bind, pure, Except.pure]

/-- The separator is never empty and is the configured one, if there is one; every repeated
field that is read from the path or the query is split at a literal of it. -/
theorem configured_separator_reaches_code (config : Config) (choices : Choices)
    (chosen : config.choices = .ok choices) :
    choices.separator = (config.get? separator).getD "," ∧ choices.separator ≠ "" ∧
    ∀ service built, Model.buildService service choices.separator = .ok built →
      ∀ method ∈ built.methods, ∀ binding ∈ method.bindings, ∀ field ∈ binding.fields,
        field.repeated = true → field.location = .path ∨ field.location = .query →
        SplitsAt choices.separator field := by
  obtain ⟨configured, filled⟩ :=
    (separatorOfValue_ok_iff _ _).mp ((choices_ok_iff config choices).mp chosen).2
  refine ⟨configured, filled, ?_⟩
  intro service built success method ofService binding ofMethod field ofBinding repeated read
  exact Model.splitsAt_of_built service choices.separator built success method ofService binding
    ofMethod field ofBinding repeated read

/-- A separator that ends a character literal unless it is escaped. -/
def quoteConfig : Config := ⟨Assignments.empty.set separator "'", "dev"⟩

def quotedRule : Service.Rule := .mk .patch "/sum/{a}/\"{}\"/{tags}/{a}" (some "filter") []

def quotedCalculator : Model.BoundService :=
  { name := "Calculator"
    methods := [Model.methodOf Model.pingMethod ⟨"Empty", []⟩ "'",
      Model.methodOf Model.sumMethod Model.sumRequest "'"] }

theorem quoteConfig_splits_tags :
    quoteConfig.choices = .ok ⟨.embedded, "'"⟩ ∧
    Model.buildService Model.calculator "'" = .ok quotedCalculator ∧
    ∃ method ∈ quotedCalculator.methods, ∃ binding ∈ method.bindings, ∃ field ∈ binding.fields,
      field.repeated = true ∧ field.location = .path ∧ SplitsAt "'" field ∧
      field.statement
        = "let TagsSumThree = TagsSumThreeStr.split('\\'').map(str::to_owned).collect::<Vec<_>>()" := by
  have chosen : quoteConfig.choices = .ok ⟨.embedded, "'"⟩ := by decide +kernel
  have built : Model.buildService Model.calculator "'" = .ok quotedCalculator := by decide +kernel
  have reaches := (configured_separator_reaches_code quoteConfig _ chosen).2.2 _ _ built
  let method := Model.methodOf Model.sumMethod Model.sumRequest "'"
  let binding := Model.bindingOf "Sum" Model.sumRequest "'" quotedRule 3
  let field := Model.fieldOf "'" "SumThree" quotedRule ⟨"tags", .scalar .string, true⟩
  have ofService : method ∈ quotedCalculator.methods := by decide +kernel
  have ofMethod : binding ∈ method.bindings := by decide +kernel
  have ofBinding : field ∈ binding.fields := by decide +kernel
  have read : field.location = .path := by decide +kernel
  exact ⟨chosen, built, method, ofService, binding, ofMethod, field, ofBinding, rfl, read,
    reaches method ofService binding ofMethod field ofBinding rfl (.inl read), by decide +kernel⟩

end HttpBinding.Config
