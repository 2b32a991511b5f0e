import HttpBinding.Model.Build
import HttpBinding.Proofs.FirstFault
import Mathlib.Data.List.Nodup

/-!
When an annotation fits a request message. Every placeholder is declared and scalar
where it is first declared, the body is a field or everything, and no two fields have
one CamelCase form. Each check of the builder passes on exactly these terms, and
otherwise reports the first thing that breaks them.
-/
namespace HttpBinding.Model

open Service (FieldDef MessageDef Rule)

/-- The first field of a message that has the name. -/
def FirstDeclared (request : MessageDef) (name : String) (field : FieldDef) : Prop :=
  ∃ before after, request.fields = before ++ field :: after ∧ field.name = name ∧
    ∀ earlier ∈ before, earlier.name ≠ name

def Undeclared (request : MessageDef) (name : String) : Prop :=
  ∀ field ∈ request.fields, field.name ≠ name

theorem field?_eq_some_iff (request : MessageDef) (name : String) (field : FieldDef) :
    request.field? name = some field ↔ FirstDeclared request name field := by
  rw [MessageDef.field?, List.find?_eq_some_iff_append]
  constructor
  · rintro ⟨named, before, after, whole, others⟩
    exact ⟨before, after, whole, by simpa using named, by simpa using others⟩
  · rintro ⟨before, after, whole, named, others⟩
    exact ⟨by simpa using named, before, after, whole, by simpa using others⟩

/-- Where no key is repeated, every member is found by its own. -/
theorem find?_key_of_nodup {α β : Type} [DecidableEq β] (key : α → β) (items : List α)
    (distinct : (items.map key).Nodup) (item : α) (member : item ∈ items) :
    (items.find? fun other => key other = key item) = some item := by
  cases found : items.find? fun other => key other = key item with
  | none =>
      have absent := List.find?_eq_none.mp found item member
      simp at absent
  | some first =>
      have same : key first = key item := by simpa using List.find?_some found
      have inside := List.mem_of_find?_eq_some found
      rw [List.inj_on_of_nodup_map distinct inside member same]

theorem field?_eq_none_iff (request : MessageDef) (name : String) :
    request.field? name = none ↔ Undeclared request name := by
  simp [MessageDef.field?, Undeclared]

theorem field?_isSome_iff (request : MessageDef) (name : String) :
    (request.field? name).isSome ↔ ∃ field ∈ request.fields, field.name = name := by
  simp [MessageDef.field?]

/-! Placeholders -/

def BindsScalar (request : MessageDef) (name : String) : Prop :=
  ∃ field, FirstDeclared request name field ∧ field.type.isScalar = true

inductive PlaceholderFault (method template : String) (request : MessageDef) (name : String) :
    BindingError → Prop where
  | undeclared (absent : Undeclared request name) :
      PlaceholderFault method template request name
        (.placeholderWithoutField method template name)
  | composite (field : FieldDef) (declared : FirstDeclared request name field)
      (composite : field.type.isScalar = false) :
      PlaceholderFault method template request name
        (.nonScalarPathField method template field.name)

theorem bindsScalar_iff (request : MessageDef) (name : String) :
    BindsScalar request name ↔
      ∃ field, request.field? name = some field ∧ field.type.isScalar = true := by
  simp only [BindsScalar, field?_eq_some_iff]

instance (request : MessageDef) (name : String) : Decidable (BindsScalar request name) :=
  decidable_of_iff ((request.field? name).any (·.type.isScalar) = true) (by
    rw [bindsScalar_iff, Option.any_eq_true])

theorem placeholderFault_iff (method template : String) (request : MessageDef) (name : String)
    (error : BindingError) :
    PlaceholderFault method template request name error ↔
      (request.field? name = none ∧ error = .placeholderWithoutField method template name) ∨
      ∃ field, request.field? name = some field ∧ field.type.isScalar = false ∧
        error = .nonScalarPathField method template field.name := by
  simp only [field?_eq_none_iff, field?_eq_some_iff]
  constructor
  · rintro (absent | ⟨field, declared, composite⟩)
    · exact .inl ⟨absent, rfl⟩
    · exact .inr ⟨field, declared, composite, rfl⟩
  · rintro (⟨absent, rfl⟩ | ⟨field, declared, composite, rfl⟩)
    · exact .undeclared absent
    · exact .composite field declared composite

theorem checkPlaceholders_ok_iff (method template : String) (request : MessageDef)
    (names : List String) :
    checkPlaceholders method template request names = .ok () ↔
      ∀ name ∈ names, BindsScalar request name := by
  induction names with
  | nil => simp [checkPlaceholders]
  | cons name rest ih =>
      simp only [checkPlaceholders, List.forall_mem_cons, bindsScalar_iff request name]
      cases found : request.field? name with
      | none => simp
      | some field => cases scalar : field.type.isScalar <;> simp [scalar, ih]

theorem checkPlaceholders_error_iff (method template : String) (request : MessageDef)
    (names : List String) (error : BindingError) :
    checkPlaceholders method template request names = .error error ↔
      FirstFault (BindsScalar request)
        (fun _ name => PlaceholderFault method template request name error) names := by
  induction names with
  | nil => simp [checkPlaceholders, not_firstFault_nil]
  | cons name rest ih =>
      simp only [checkPlaceholders, firstFault_cons]
      rw [← ih, placeholderFault_iff, bindsScalar_iff]
      cases found : request.field? name with
      | none =>
          simp only [Except.error.injEq, reduceCtorEq, false_and, exists_false, or_false, true_and]
          exact eq_comm
      | some field =>
          cases scalar : field.type.isScalar with
          | false => simpa [scalar] using eq_comm
          | true => simp [scalar]

/-! Bodies -/

def BodyFits (request : MessageDef) (body : Option String) : Prop :=
  body = none ∨ body = some "*" ∨ ∃ field ∈ request.fields, body = some field.name

instance (request : MessageDef) (body : Option String) : Decidable (BodyFits request body) :=
  inferInstanceAs (Decidable (_ ∨ _ ∨ _))

/-- The selector that a body stands for. -/
def BodySelector.ofBody : Option String → BodySelector
  | none => .unset
  | some name => if name = "*" then .all else .field name

theorem BodySelector.selects_ofBody (body : Option String) (name : String) :
    (BodySelector.ofBody body).selects name = true ↔ body = some "*" ∨ body = some name := by
  cases body with
  | none => simp [ofBody, selects]
  | some chosen =>
      by_cases all : chosen = "*"
      · simp [ofBody, selects, all]
      · simp [ofBody, selects, all]

theorem selectBody_some (method template : String) (request : MessageDef) (name : String)
    (special : name ≠ "*") :
    selectBody method template request (some name) =
      if (request.field? name).isSome then .ok (.field name)
      else .error (.bodyWithoutField method template name) := by
  unfold selectBody
  split <;> simp_all

theorem bodyFits_some_iff (request : MessageDef) (name : String) (special : name ≠ "*") :
    BodyFits request (some name) ↔ (request.field? name).isSome := by
  simp [BodyFits, special, field?_isSome_iff, @eq_comm _ _ name]

theorem selectBody_ok_iff (method template : String) (request : MessageDef)
    (body : Option String) (selector : BodySelector) :
    selectBody method template request body = .ok selector ↔
      BodyFits request body ∧ selector = .ofBody body := by
  cases body with
  | none => simp [selectBody, BodyFits, BodySelector.ofBody, eq_comm]
  | some name =>
      by_cases all : name = "*"
      · simp [selectBody, BodyFits, BodySelector.ofBody, all, eq_comm]
      · rw [selectBody_some method template request name all, bodyFits_some_iff request name all]
        by_cases found : (request.field? name).isSome
        · simp [found, BodySelector.ofBody, all, eq_comm]
        · simp [found]

theorem selectBody_error_iff (method template : String) (request : MessageDef)
    (body : Option String) (error : BindingError) :
    selectBody method template request body = .error error ↔
      ∃ name, body = some name ∧ name ≠ "*" ∧ Undeclared request name ∧
        error = .bodyWithoutField method template name := by
  cases body with
  | none => simp [selectBody]
  | some name =>
      by_cases all : name = "*"
      · simp [selectBody, all]
      · rw [selectBody_some method template request name all]
        cases found : request.field? name with
        | none => simp [all, (field?_eq_none_iff request name).mp found, eq_comm]
        | some field =>
            have declared : ¬ Undeclared request name := by
              simp [← field?_eq_none_iff, found]
            simp [declared]

end HttpBinding.Model
