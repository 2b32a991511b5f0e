import HttpBinding.Proofs.Identifier.SnakeForm
import HttpBinding.Proofs.Model.PathVariables

/-!
Keys of query parameters. The builder compares CamelCase forms, and a key is a
lower_snake form. Keys of one route differ as far as the CamelCase forms can be read off
them; two names that differ in capitals that leave no trace share a key.
-/
namespace HttpBinding.Model

open Service (FieldDef MessageDef MethodDef Rule)

/-- Whether a capital of the name could be lost in its key. -/
def KeepsCapitals (field : Field) : Prop := Identifier.CapitalsApart none field.name.toList

instance (field : Field) : Decidable (KeepsCapitals field) :=
  inferInstanceAs (Decidable (Identifier.CapitalsApart _ _))

theorem pairwise_queryNames (method : String) (request : MessageDef) (separator : String)
    (rule : Rule) (position : Nat) (distinct : DistinctForms request) :
    (bindingOf method request separator rule position).fields.Pairwise fun first second =>
      KeepsCapitals first → KeepsCapitals second → first.queryName ≠ second.queryName := by
  rw [bindingOf, List.pairwise_map]
  have forms : request.fields.Pairwise fun first second => camelForm first ≠ camelForm second :=
    List.pairwise_map.mp distinct
  refine forms.imp ?_
  intro first second differs firstKeeps secondKeeps same
  exact differs (Identifier.camel_eq_of_snake_eq first.name second.name firstKeeps secondKeeps same)

/-- Of the query fields of a built route, no two share a key unless a capital of one of
their names is lost in it. -/
theorem queryNames_distinct (method : MethodDef) (request : MessageDef) (separator : String)
    (built : Method) (binding : Binding)
    (success : buildMethod method request separator = .ok built)
    (member : binding ∈ built.bindings) :
    (binding.fieldsAt .query).Pairwise fun first second =>
      KeepsCapitals first → KeepsCapitals second → first.queryName ≠ second.queryName := by
  obtain ⟨accepted, rfl⟩ := (buildMethod_ok_iff method request separator built).mp success
  obtain ⟨rule, annotated, position, rfl⟩ :=
    mem_bindings_methodOf method request separator binding member
  exact (pairwise_queryNames method.name request separator rule position
    (accepted rule annotated).2).sublist List.filter_sublist

def searchRule : Rule := .mk .get "/users/{id}/posts" none []

def searchMethod : MethodDef :=
  { name := "Search"
    requestType := "SearchRequest"
    responseType := "SearchReply"
    http := [searchRule] }

def searchRequest : MessageDef :=
  { name := "SearchRequest"
    fields := [⟨"id", .scalar .int64, false⟩, ⟨"userId", .scalar .int64, false⟩,
      ⟨"page_2Size", .scalar .uint32, false⟩, ⟨"Tags", .scalar .string, true⟩] }

theorem searchMethod_queryNames_distinct :
    buildMethod searchMethod searchRequest "," = .ok (methodOf searchMethod searchRequest ",") ∧
    bindingOf "Search" searchRequest "," searchRule 0
      ∈ (methodOf searchMethod searchRequest ",").bindings ∧
    ((bindingOf "Search" searchRequest "," searchRule 0).fieldsAt .query).Pairwise
      fun first second =>
        KeepsCapitals first → KeepsCapitals second → first.queryName ≠ second.queryName := by
  have built : buildMethod searchMethod searchRequest ","
      = .ok (methodOf searchMethod searchRequest ",") :=
    (buildMethod_ok_iff ..).mpr ⟨by decide +kernel, rfl⟩
  have member : bindingOf "Search" searchRequest "," searchRule 0
      ∈ (methodOf searchMethod searchRequest ",").bindings := by decide +kernel
  exact ⟨built, member, queryNames_distinct _ _ _ _ _ built member⟩

/-- Two capitals in a row: the second one is lost in the key, but not in the local. -/
def accountRequest : MessageDef :=
  { name := "SearchRequest"
    fields := [⟨"id", .scalar .int64, false⟩, ⟨"user_id", .scalar .int64, false⟩,
      ⟨"userID", .scalar .int64, false⟩] }

theorem accountRequest_shares_a_key :
    ∃ built binding first second,
      buildMethod searchMethod accountRequest "," = .ok built ∧ binding ∈ built.bindings ∧
      binding.fieldsAt .query = [first, second] ∧ first.name = "user_id" ∧
      second.name = "userID" ∧ first.queryName = "user_id" ∧ second.queryName = "user_id" := by
  refine ⟨_, bindingOf "Search" accountRequest "," searchRule 0, _, _,
    (buildMethod_ok_iff ..).mpr ⟨by decide +kernel, rfl⟩, ?_, rfl, ?_⟩
  · decide +kernel
  · decide +kernel

end HttpBinding.Model
