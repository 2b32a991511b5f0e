import HttpBinding.Proofs.Identifier.WellFormed
import HttpBinding.Proofs.Model.PathVariables

/-!
Names in generated code. Where a request field has an identifier for its name, so it has in
each of its spellings and in its local name, on every route of the method.
-/
namespace HttpBinding.Model

open Identifier (Consists IsIdentifier isSmallWordChar isWordChar)
open Service (FieldDef MessageDef MethodDef)

/-- The spellings of a field are identifiers, each with a first letter of its case. -/
structure WellNamed (field : Field) : Prop where
  camel : Consists Char.isUpper isWordChar field.camelName.toList
  localName : Consists Char.isUpper isWordChar field.localName.toList
  lowCamel : Consists Char.isLower Char.isAlphanum field.lowCamelName.toList
  query : Consists isSmallWordChar isSmallWordChar field.queryName.toList

theorem label_words (method : String) (words : ∀ c ∈ method.toList, isWordChar c = true)
    (position : Nat) : ∀ c ∈ (label method position).toList, isWordChar c = true := by
  rw [label, String.toList_append, List.forall_mem_append]
  exact ⟨words, Identifier.ordinal_words position⟩

theorem wellNamed_buildField (definition : FieldDef) (bindingLabel : String) (location : Location)
    (separator : String) (identifier : IsIdentifier definition.name)
    (words : ∀ c ∈ bindingLabel.toList, isWordChar c = true) :
    WellNamed (buildField definition bindingLabel location separator) := by
  have camel := Identifier.camel_consists definition.name identifier
  refine ⟨camel, ?_, ?_, Identifier.snake_consists definition.name identifier⟩
  · simp only [buildField, String.toList_append]
    exact camel.append _ _ _ _ words
  · exact Identifier.lowCamel_consists definition.name
      (Identifier.words_of_identifier definition.name identifier)

/-- Identifiers in a schema stay identifiers in the code, if the method has a name that may
stand inside of one. -/
theorem buildMethod_wellNamed (method : MethodDef) (request : MessageDef) (separator : String)
    (built : Method) (success : buildMethod method request separator = .ok built)
    (words : ∀ c ∈ method.name.toList, isWordChar c = true) :
    ∀ binding ∈ built.bindings, ∀ field ∈ binding.fields,
      IsIdentifier field.name → WellNamed field := by
  obtain ⟨_, rfl⟩ := (buildMethod_ok_iff method request separator built).mp success
  intro binding member field inside identifier
  obtain ⟨rule, _, position, rfl⟩ :=
    mem_bindings_methodOf method request separator binding member
  obtain ⟨definition, _, rfl⟩ := List.mem_map.mp inside
  exact wellNamed_buildField definition _ _ separator identifier
    (label_words method.name words position)

/-- Names of underscores, digits and capitals in unusual places. -/
def accessRequest : MessageDef :=
  { name := "AccessRequest"
    fields := [⟨"_", .scalar .int64, false⟩, ⟨"_2fa", .scalar .string, false⟩,
      ⟨"a__b_", .scalar .string, true⟩, ⟨"URL_2x", .message "Link", false⟩] }

def accessMethod : MethodDef :=
  { name := "Get_2"
    requestType := "AccessRequest"
    responseType := "Access"
    http := [.mk .get "/access/{_2fa}" none [.mk .post "/access" (some "*") []]] }

theorem accessMethod_wellNamed :
    buildMethod accessMethod accessRequest ","
      = .ok (methodOf accessMethod accessRequest ",") ∧
    accessMethod.name.toList.all isWordChar = true ∧
    ∀ binding ∈ (methodOf accessMethod accessRequest ",").bindings, ∀ field ∈ binding.fields,
      IsIdentifier field.name ∧ WellNamed field := by
  have built : buildMethod accessMethod accessRequest ","
      = .ok (methodOf accessMethod accessRequest ",") :=
    (buildMethod_ok_iff ..).mpr ⟨by decide +kernel, rfl⟩
  have words : accessMethod.name.toList.all isWordChar = true := by decide +kernel
  have identifiers : ∀ binding ∈ (methodOf accessMethod accessRequest ",").bindings,
      ∀ field ∈ binding.fields, IsIdentifier field.name := by decide +kernel
  have named := buildMethod_wellNamed accessMethod accessRequest "," _ built
    (List.all_eq_true.mp words)
  refine ⟨built, words, fun binding member field inside => ?_⟩
  have identifier := identifiers binding member field inside
  exact ⟨identifier, named binding member field inside identifier⟩

end HttpBinding.Model
