import HttpBinding.Proofs.Model.Placement
import HttpBinding.Proofs.Path.Matching

/-!
The matcher and the builder agree on path variables. Whatever path is matched against
the template of a built binding, the bound names are those of its path fields, and
each of these is one scalar field of the request with a conversion of its own.
-/
namespace HttpBinding.Model

open Service (FieldDef MessageDef MethodDef Rule)

theorem mem_bindings_methodOf (method : MethodDef) (request : MessageDef) (separator : String)
    (binding : Binding) (member : binding ∈ (methodOf method request separator).bindings) :
    ∃ rule ∈ method.annotations, ∃ position,
      binding = bindingOf method.name request separator rule position := by
  obtain ⟨position, inside, rfl⟩ := List.mem_mapIdx.mp member
  exact ⟨_, List.getElem_mem inside, position, rfl⟩

theorem mem_fields_bindingOf (method : String) (request : MessageDef) (separator : String)
    (rule : Rule) (position : Nat) (accepted : Accepted request rule) (field : Field)
    (member : field ∈ (bindingOf method request separator rule position).fields) :
    ∃ definition ∈ request.fields, PlacedBy rule (label method position) definition field := by
  obtain ⟨definition, inside, rfl⟩ := List.mem_map.mp member
  exact ⟨definition, inside,
    placedBy_fieldOf request rule accepted separator method position definition inside⟩

/-- The path fields of a binding are its placeholders, without exception on either side. -/
theorem exists_path_field_iff (method : String) (request : MessageDef) (separator : String)
    (rule : Rule) (position : Nat) (accepted : Accepted request rule) (name : String) :
    (∃ field ∈ (bindingOf method request separator rule position).fields,
      field.location = .path ∧ field.name = name) ↔ name ∈ Path.placeholders rule.path := by
  constructor
  · rintro ⟨field, member, location, rfl⟩
    obtain ⟨definition, _, placed⟩ :=
      mem_fields_bindingOf method request separator rule position accepted field member
    exact placed.path.mp location
  · intro bound
    obtain ⟨definition, ⟨before, after, whole, rfl, _⟩, _⟩ := accepted.1.1 name bound
    have declared : definition ∈ request.fields := by simp [whole]
    have placed := placedBy_fieldOf request rule accepted separator method position definition
      declared
    exact ⟨_, List.mem_map_of_mem declared, placed.path.mpr bound, placed.name⟩

/-- A path field has a scalar type, a statement that reads it, and its name to itself. -/
theorem path_field_readable (method : String) (request : MessageDef) (separator : String)
    (rule : Rule) (position : Nat) (accepted : Accepted request rule) (field : Field)
    (member : field ∈ (bindingOf method request separator rule position).fields)
    (location : field.location = .path) :
    field.type.isScalar = true ∧ field.statement ≠ "" ∧
      (request.fields.map FieldDef.name).count field.name = 1 := by
  obtain ⟨definition, declared, placed⟩ :=
    mem_fields_bindingOf method request separator rule position accepted field member
  have bound := placed.name ▸ placed.path.mp location
  refine ⟨?_, placed.statement.mpr (.inl location), ?_⟩
  · rw [placed.type]
    exact isScalar_of_bound request rule accepted definition declared bound
  · rw [placed.name]
    exact List.count_eq_one_of_mem (nodup_names request accepted.2)
      (List.mem_map_of_mem declared)

/-- What is bound is what is read: the names in `params` are those of the path fields,
and each path field can be read and has its name to itself. -/
def BindsPathFields (request : MessageDef) (binding : Binding) (params : Assignments) : Prop :=
  (∀ name, name ∈ params.names ↔
    ∃ field ∈ binding.fields, field.location = .path ∧ field.name = name) ∧
  ∀ field ∈ binding.fields, field.location = .path →
    field.type.isScalar = true ∧ field.statement ≠ "" ∧
      (request.fields.map FieldDef.name).count field.name = 1

theorem matched_names_are_path_fields (method : MethodDef) (request : MessageDef)
    (separator : String) (built : Method) (binding : Binding) (path : String)
    (params : Assignments)
    (success : buildMethod method request separator = .ok built)
    (member : binding ∈ built.bindings)
    (matched : Path.params path binding.template = .ok params) :
    BindsPathFields request binding params := by
  obtain ⟨accepted, rfl⟩ := (buildMethod_ok_iff method request separator built).mp success
  obtain ⟨rule, annotated, position, rfl⟩ :=
    mem_bindings_methodOf method request separator binding member
  constructor
  · intro name
    rw [Path.mem_names_params path _ params matched name]
    exact (exists_path_field_iff method.name request separator rule position
      (accepted rule annotated) name).symm
  · exact path_field_readable method.name request separator rule position
      (accepted rule annotated)

theorem sumBinding_bindsPathFields :
    buildMethod sumMethod sumRequest "," = .ok (methodOf sumMethod sumRequest ",") ∧
    sumBinding ∈ (methodOf sumMethod sumRequest ",").bindings ∧
    Path.params "/sum/7/\"{}\"/x,y/8/" sumBinding.template
      = .ok ⟨[("tags", "x,y"), ("a", "8")]⟩ ∧
    BindsPathFields sumRequest sumBinding ⟨[("tags", "x,y"), ("a", "8")]⟩ := by
  have member : sumBinding ∈ (methodOf sumMethod sumRequest ",").bindings := by decide +kernel
  have matched : Path.params "/sum/7/\"{}\"/x,y/8/" sumBinding.template
      = .ok ⟨[("tags", "x,y"), ("a", "8")]⟩ := by decide +kernel
  exact ⟨buildMethod_sumMethod, member, matched,
    matched_names_are_path_fields _ _ _ _ _ _ _ buildMethod_sumMethod member matched⟩

end HttpBinding.Model
