import HttpBinding.Proofs.Identifier.Ordinal
import HttpBinding.Proofs.Model.Acceptance
import HttpBinding.Proofs.Service.RuleForest
import Mathlib.Data.List.Forall2

/-!
What a built method consists of: one binding for each rule, in pre-order, and on each
binding one field for each request field, placed by the path first, then by the body,
then by its type. Only fields of the path and the query carry a conversion.
-/
namespace HttpBinding.Model

open Service (FieldDef FieldType MessageDef MethodDef Rule Scalar)

/-! Locations -/

theorem fieldLocation_eq_path_iff (definition : FieldDef) (placeholders : List String)
    (body : BodySelector) :
    fieldLocation definition placeholders body = .path ↔ definition.name ∈ placeholders := by
  by_cases bound : definition.name ∈ placeholders
  · simp [fieldLocation, bound]
  · cases selected : body.selects definition.name <;> cases scalar : definition.type.isScalar <;>
      simp [fieldLocation, bound, selected, scalar]

theorem fieldLocation_eq_body_iff (definition : FieldDef) (placeholders : List String)
    (body : BodySelector) :
    fieldLocation definition placeholders body = .body ↔ definition.name ∉ placeholders ∧
      (body.selects definition.name = true ∨ definition.type.isScalar = false) := by
  by_cases bound : definition.name ∈ placeholders
  · simp [fieldLocation, bound]
  · cases selected : body.selects definition.name <;> cases scalar : definition.type.isScalar <;>
      simp [fieldLocation, bound, selected, scalar]

theorem fieldLocation_eq_query_iff (definition : FieldDef) (placeholders : List String)
    (body : BodySelector) :
    fieldLocation definition placeholders body = .query ↔ definition.name ∉ placeholders ∧
      body.selects definition.name = false ∧ definition.type.isScalar = true := by
  by_cases bound : definition.name ∈ placeholders
  · simp [fieldLocation, bound]
  · cases selected : body.selects definition.name <;> cases scalar : definition.type.isScalar <;>
      simp [fieldLocation, bound, selected, scalar]

/-! Conversions -/

theorem conversion?_of_read (definition : FieldDef) (location : Location)
    (localName separator : String) (scalar : Scalar) (typed : definition.type = .scalar scalar)
    (read : location = .path ∨ location = .query) :
    conversion? definition location localName separator
      = some (.make scalar definition.repeated localName separator) := by
  rcases read with rfl | rfl <;> simp [conversion?, typed]

theorem conversion?_body (definition : FieldDef) (localName separator : String) :
    conversion? definition .body localName separator = none := rfl

theorem statement_make_ne_empty (scalar : Scalar) (repeated : Bool)
    (localName separator : String) :
    (Conversion.make scalar repeated localName separator).statement ≠ "" := by
  simp [Conversion.make]

theorem isFallible_iff (scalar : Scalar) :
    scalar.isFallible = true ↔ scalar ≠ .string ∧ scalar ≠ .bytes := by
  cases scalar <;> decide

theorem isScalar_iff (type : FieldType) :
    type.isScalar = true ↔ ∃ scalar, type = .scalar scalar := by
  cases type <;> simp [FieldType.isScalar, FieldType.scalar?]

/-! Fields of one binding -/

/-- The conversion members of a field by its location: the query and the path are read
from text, the body is not. -/
structure Converted (field : Field) : Prop where
  statement : field.statement ≠ "" ↔ field.location = .path ∨ field.location = .query
  value : field.value = field.localName ↔ field.location = .path ∨ field.location = .query
  unread : field.location = .body → field.statement = "" ∧ field.value = ""
  needsCheck : field.needsCheck = true ↔
    (field.location = .path ∨ field.location = .query) ∧
      ∃ scalar, field.type = .scalar scalar ∧ scalar ≠ .string ∧ scalar ≠ .bytes

/-- How a field of a binding follows from its definition, the rule and the label. -/
structure PlacedBy (rule : Rule) (bindingLabel : String) (definition : FieldDef)
    (field : Field) : Prop extends Converted field where
  name : field.name = definition.name
  localName : field.localName = Identifier.camel definition.name ++ bindingLabel
  type : field.type = definition.type
  repeated : field.repeated = definition.repeated
  path : field.location = .path ↔ field.name ∈ Path.placeholders rule.path
  body : field.location = .body ↔ field.name ∉ Path.placeholders rule.path ∧
    (rule.body = some "*" ∨ rule.body = some field.name ∨ field.type.isScalar = false)
  query : field.location = .query ↔ field.name ∉ Path.placeholders rule.path ∧
    ¬ (rule.body = some "*" ∨ rule.body = some field.name ∨ field.type.isScalar = false)

theorem localName_ne_empty (separator method : String) (position : Nat) (rule : Rule)
    (definition : FieldDef) :
    (fieldOf separator (label method position) rule definition).localName ≠ "" := by
  simp [localName_fieldOf, label, Identifier.ordinal_ne_empty]

/-- A placeholder names one field only, so a field that it names is scalar. -/
theorem isScalar_of_bound (request : MessageDef) (rule : Rule) (accepted : Accepted request rule)
    (definition : FieldDef) (member : definition ∈ request.fields)
    (bound : definition.name ∈ Path.placeholders rule.path) :
    definition.type.isScalar = true := by
  obtain ⟨first, ⟨before, after, whole, named, _⟩, scalar⟩ := accepted.1.1 _ bound
  have declared : first ∈ request.fields := by simp [whole]
  have same : camelForm first = camelForm definition := by simp [camelForm, named]
  rwa [← List.inj_on_of_nodup_map accepted.2 declared member same]

theorem isScalar_of_read (request : MessageDef) (rule : Rule) (accepted : Accepted request rule)
    (separator bindingLabel : String) (definition : FieldDef)
    (member : definition ∈ request.fields)
    (read : (fieldOf separator bindingLabel rule definition).location = .path ∨
      (fieldOf separator bindingLabel rule definition).location = .query) :
    definition.type.isScalar = true := by
  rcases read with path | query
  · exact isScalar_of_bound request rule accepted definition member
      ((fieldLocation_eq_path_iff ..).mp path)
  · exact ((fieldLocation_eq_query_iff ..).mp query).2.2

theorem fieldOf_of_read (separator bindingLabel : String) (rule : Rule)
    (definition : FieldDef) (scalar : Scalar) (typed : definition.type = .scalar scalar)
    (read : (fieldOf separator bindingLabel rule definition).location = .path ∨
      (fieldOf separator bindingLabel rule definition).location = .query) :
    (fieldOf separator bindingLabel rule definition).statement ≠ "" ∧
    (fieldOf separator bindingLabel rule definition).value
      = (fieldOf separator bindingLabel rule definition).localName ∧
    (fieldOf separator bindingLabel rule definition).needsCheck = scalar.isFallible := by
  have conversion := conversion?_of_read definition _ (camelForm definition ++ bindingLabel)
    separator scalar typed read
  simp only [fieldOf, buildField, camelForm] at conversion ⊢
  rw [conversion]
  exact ⟨statement_make_ne_empty _ _ _ _, rfl, rfl⟩

theorem fieldOf_of_body (separator bindingLabel : String) (rule : Rule)
    (definition : FieldDef)
    (unread : (fieldOf separator bindingLabel rule definition).location = .body) :
    (fieldOf separator bindingLabel rule definition).statement = "" ∧
    (fieldOf separator bindingLabel rule definition).value = "" ∧
    (fieldOf separator bindingLabel rule definition).needsCheck = false := by
  simp only [fieldOf, buildField] at unread ⊢
  rw [unread, conversion?_body]
  exact ⟨rfl, rfl, rfl⟩

theorem converted_fieldOf (request : MessageDef) (rule : Rule)
    (accepted : Accepted request rule) (separator method : String) (position : Nat)
    (definition : FieldDef) (member : definition ∈ request.fields) :
    Converted (fieldOf separator (label method position) rule definition) := by
  have named := localName_ne_empty separator method position rule definition
  have scalar := isScalar_of_read request rule accepted separator (label method position)
    definition member
  have typed : (fieldOf separator (label method position) rule definition).type
    = definition.type := rfl
  cases unread : (fieldOf separator (label method position) rule definition).location with
  | body =>
      obtain ⟨statement, value, check⟩ := fieldOf_of_body separator _ rule definition unread
      exact ⟨by simp [statement, unread], by simp [value, Ne.symm named, unread],
        fun _ => ⟨statement, value⟩, by simp [check, unread]⟩
  | path | query =>
      obtain ⟨kind, isKind⟩ := (isScalar_iff _).mp (scalar (by simp [unread]))
      obtain ⟨statement, value, check⟩ := fieldOf_of_read separator (label method position) rule
        definition kind isKind (by simp [unread])
      exact ⟨by simp [statement, unread], by simp [value, unread], by simp [unread],
        by simp [check, isFallible_iff, unread, typed, isKind]⟩

theorem placedBy_fieldOf (request : MessageDef) (rule : Rule) (accepted : Accepted request rule)
    (separator method : String) (position : Nat) (definition : FieldDef)
    (member : definition ∈ request.fields) :
    PlacedBy rule (label method position) definition
      (fieldOf separator (label method position) rule definition) := by
  have chosen := BodySelector.selects_ofBody rule.body definition.name
  refine ⟨converted_fieldOf request rule accepted separator method position definition member,
    rfl, rfl, rfl, rfl, fieldLocation_eq_path_iff .., ?_, ?_⟩
  · refine (fieldLocation_eq_body_iff ..).trans (and_congr_right fun _ => ?_)
    rw [chosen, or_assoc]
    rfl
  · have unchosen := not_congr chosen
    rw [Bool.not_eq_true] at unchosen
    refine (fieldLocation_eq_query_iff ..).trans (and_congr_right fun _ => ?_)
    rw [← or_assoc, not_or, Bool.not_eq_false]
    exact and_congr_left fun _ => unchosen

/-! Bindings -/

/-- What one rule and its position in pre-order determine about a binding. -/
structure RoutedBy (method : String) (request : MessageDef) (rule : Rule) (position : Nat)
    (binding : Binding) : Prop where
  verb : binding.verb = rule.verb
  template : binding.template = rule.path
  basePath : binding.basePath = Path.basePath rule.path
  label : binding.label = method ++ Identifier.ordinal position
  fields : List.Forall₂ (PlacedBy rule binding.label) request.fields binding.fields
  distinct : (binding.fields.map Field.name).Nodup
  found : ∀ field ∈ binding.fields, binding.field? field.name = some field

theorem nodup_names (request : MessageDef) (distinct : DistinctForms request) :
    (request.fields.map FieldDef.name).Nodup := by
  apply List.Nodup.of_map Identifier.camel
  rwa [List.map_map]

theorem field?_of_distinct (binding : Binding) (distinct : (binding.fields.map Field.name).Nodup)
    (field : Field) (member : field ∈ binding.fields) :
    binding.field? field.name = some field :=
  find?_key_of_nodup Field.name binding.fields distinct field member

theorem routedBy_bindingOf (method : String) (request : MessageDef) (separator : String)
    (rule : Rule) (position : Nat) (accepted : Accepted request rule) :
    RoutedBy method request rule position (bindingOf method request separator rule position) := by
  have names : (bindingOf method request separator rule position).fields.map Field.name
      = request.fields.map FieldDef.name := by
    rw [bindingOf, List.map_map]
    rfl
  have distinct := names ▸ nodup_names request accepted.2
  refine ⟨rfl, rfl, rfl, rfl, ?_, distinct, field?_of_distinct _ distinct⟩
  rw [bindingOf, List.forall₂_map_right_iff, List.forall₂_same]
  exact fun definition member =>
    placedBy_fieldOf request rule accepted separator method position definition member

/-- The bindings of a built method are the rules of the forest, place by place in
pre-order. -/
def FollowsForest (method : MethodDef) (request : MessageDef) (built : Method) : Prop :=
  ∃ places, Rule.InPreorder method.http places ∧ built.bindings.length = places.length ∧
    ∀ position place, places[position]? = some place →
      ∃ rule binding, Rule.forestAt? method.http place = some rule ∧
        built.bindings[position]? = some binding ∧
        RoutedBy method.name request rule position binding

theorem buildMethod_followsForest (method : MethodDef) (request : MessageDef)
    (separator : String) (built : Method)
    (success : buildMethod method request separator = .ok built) :
    FollowsForest method request built := by
  obtain ⟨accepted, rfl⟩ := (buildMethod_ok_iff method request separator built).mp success
  -- `led` turns the position in the list of annotations into a place in the forest.
  obtain ⟨places, ordered, led⟩ := method.annotations_in_preorder
  have sizes : places.length = method.annotations.length := by
    simpa using congrArg List.length led
  refine ⟨places, ordered, by simp [methodOf, sizes], ?_⟩
  intro position place there
  have leads := congrArg (fun rules => rules[position]?) led
  simp only [List.getElem?_map, there, Option.map_some] at leads
  cases annotated : method.annotations[position]? with
  | none => simp [annotated] at leads
  | some rule =>
      rw [annotated, Option.map_some, Option.some.injEq] at leads
      refine ⟨rule, bindingOf method.name request separator rule position, leads, ?_,
        routedBy_bindingOf method.name request separator rule position
          (accepted rule (List.mem_of_getElem? annotated))⟩
      simp [methodOf, annotated]

def sumRequest : MessageDef :=
  { name := "SumRequest"
    fields := [⟨"a", .scalar .int64, false⟩, ⟨"tags", .scalar .string, true⟩,
      ⟨"filter", .message "Filter", false⟩] }

/-- A route with an additional one, which has another below it, and a second route. -/
def sumMethod : MethodDef :=
  { name := "Sum"
    requestType := "SumRequest"
    responseType := "SumReply"
    http := [
      .mk .get "/sum/{a}" none [.mk .post "/sum" (some "*") [.mk .put "/sum" (some "a") []]],
      .mk .patch "/sum/{a}/\"{}\"/{tags}/{a}" (some "filter") []] }

/-- The last binding of `sumMethod`, with a name that occurs twice in the path. -/
def sumBinding : Binding :=
  bindingOf "Sum" sumRequest ","
    (.mk .patch "/sum/{a}/\"{}\"/{tags}/{a}" (some "filter") []) 3

theorem buildMethod_sumMethod :
    buildMethod sumMethod sumRequest "," = .ok (methodOf sumMethod sumRequest ",") :=
  (buildMethod_ok_iff ..).mpr ⟨by decide +kernel, rfl⟩

theorem sumMethod_followsForest :
    buildMethod sumMethod sumRequest "," = .ok (methodOf sumMethod sumRequest ",") ∧
    FollowsForest sumMethod sumRequest (methodOf sumMethod sumRequest ",") :=
  ⟨buildMethod_sumMethod,
    buildMethod_followsForest sumMethod sumRequest "," _ buildMethod_sumMethod⟩

end HttpBinding.Model
