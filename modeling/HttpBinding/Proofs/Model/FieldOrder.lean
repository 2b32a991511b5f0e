import HttpBinding.Proofs.Model.Placement
import Mathlib.Data.List.FinRange
import Mathlib.Logic.Equiv.Fin.Rotate

/-!
The order of the request fields. Whether a rule fits depends on which definition of a name
comes first only where names are repeated, and then no rule is accepted anyway. So a message
with its fields in another order gives the same bindings, each with its fields in that order.
-/
namespace HttpBinding.Model

open Service (FieldDef MessageDef MethodDef Rule)

/-! Rearranged lists -/

/-- Both lists have the same members: a place of `other` has what stands in `items` at the
place that `order` leads to. -/
structure Rearranged {α : Type} {count : Nat} (order : Equiv.Perm (Fin count))
    (items other : List α) : Prop where
  size : items.length = count
  otherSize : other.length = count
  placed : ∀ place : Fin count, other[place.val]? = items[(order place).val]?

section Rearranging
variable {α β : Type} {count : Nat} (order : Equiv.Perm (Fin count)) (items other : List α)
  (rearranged : Rearranged order items other)
include rearranged

theorem perm_of_rearranged : items.Perm other := by
  obtain ⟨rfl, size, placed⟩ := rearranged
  have moved : other = List.ofFn fun place => items[order place] := by
    apply List.ext_getElem
    · simp [size]
    · intro place inside there
      have found := placed ⟨place, by simpa using there⟩
      simpa [List.getElem?_eq_getElem, inside] using found
  calc items = List.ofFn (fun place => items[place]) := List.ofFn_getElem.symm
    List.Perm _ (List.ofFn fun place => items[order place]) :=
      (order.ofFn_comp_perm fun place => items[place]).symm
    _ = other := moved.symm

theorem rearranged_map (f : α → β) : Rearranged order (items.map f) (other.map f) where
  size := by simpa using rearranged.size
  otherSize := by simpa using rearranged.otherSize
  placed place := by simp [rearranged.placed place]

end Rearranging

/-! Messages with the same fields -/

theorem firstDeclared_iff_of_distinct (request : MessageDef) (distinct : DistinctForms request)
    (name : String) (field : FieldDef) :
    FirstDeclared request name field ↔ field ∈ request.fields ∧ field.name = name := by
  constructor
  · rintro ⟨before, after, whole, named, _⟩
    exact ⟨by simp [whole], named⟩
  · rintro ⟨declared, rfl⟩
    apply (field?_eq_some_iff ..).mp
    exact find?_key_of_nodup FieldDef.name _ (nodup_names request distinct) field declared

section Orders
variable (request other : MessageDef) (perm : request.fields.Perm other.fields)
include perm

theorem distinctForms_iff_of_perm : DistinctForms request ↔ DistinctForms other :=
  (perm.map camelForm).nodup_iff

theorem bindsScalar_iff_of_perm (distinct : DistinctForms request) (name : String) :
    BindsScalar request name ↔ BindsScalar other name := by
  have also := (distinctForms_iff_of_perm request other perm).mp distinct
  simp only [BindsScalar, firstDeclared_iff_of_distinct request distinct,
    firstDeclared_iff_of_distinct other also, perm.mem_iff]

theorem bodyFits_iff_of_perm (body : Option String) :
    BodyFits request body ↔ BodyFits other body := by
  simp only [BodyFits, perm.mem_iff]

theorem accepted_iff_of_perm (rule : Rule) : Accepted request rule ↔ Accepted other rule := by
  rw [Accepted, Accepted, ← distinctForms_iff_of_perm request other perm]
  -- Placeholders lead to the same definitions as long as no name is repeated.
  refine and_congr_left fun distinct => and_congr ?_ (bodyFits_iff_of_perm request other perm _)
  simp only [bindsScalar_iff_of_perm request other perm distinct]

end Orders

/-! Built methods -/

/-- Bindings that differ in the order of their fields only. -/
structure SameRoute {count : Nat} (order : Equiv.Perm (Fin count)) (binding other : Binding) :
    Prop where
  label : other.label = binding.label
  verb : other.verb = binding.verb
  template : other.template = binding.template
  basePath : other.basePath = binding.basePath
  fields : Rearranged order binding.fields other.fields

structure SameRoutes {count : Nat} (order : Equiv.Perm (Fin count)) (built other : Method) :
    Prop where
  name : other.name = built.name
  requestType : other.requestType = built.requestType
  responseType : other.responseType = built.responseType
  routes : List.Forall₂ (SameRoute order) built.bindings other.bindings

section Methods
variable {count : Nat} (order : Equiv.Perm (Fin count)) (request other : MessageDef)
  (rearranged : Rearranged order request.fields other.fields)
include rearranged

theorem sameRoute_bindingOf (method separator : String) (rule : Rule) (position : Nat) :
    SameRoute order (bindingOf method request separator rule position)
      (bindingOf method other separator rule position) where
  label := rfl
  verb := rfl
  template := rfl
  basePath := rfl
  fields := rearranged_map order _ _ rearranged _

theorem sameRoutes_methodOf (method : MethodDef) (separator : String) :
    SameRoutes order (methodOf method request separator) (methodOf method other separator) := by
  refine ⟨rfl, rfl, rfl, List.forall₂_iff_get.mpr ⟨by simp [methodOf], ?_⟩⟩
  intro position inside _
  simp only [methodOf, List.get_eq_getElem, List.getElem_mapIdx]
  exact sameRoute_bindingOf order request other rearranged method.name separator _ position

end Methods

theorem buildMethod_rearranged {count : Nat} (order : Equiv.Perm (Fin count))
    (method : MethodDef) (request other : MessageDef) (separator : String)
    (rearranged : Rearranged order request.fields other.fields) :
    ((∃ built, buildMethod method other separator = .ok built) ↔
      ∃ built, buildMethod method request separator = .ok built) ∧
    ∀ built second, buildMethod method request separator = .ok built →
      buildMethod method other separator = .ok second → SameRoutes order built second := by
  constructor
  · have perm := perm_of_rearranged order _ _ rearranged
    simp only [buildMethod_ok_iff, accepted_iff_of_perm request other perm]
    simp
  · intro built second success also
    obtain ⟨_, rfl⟩ := (buildMethod_ok_iff ..).mp success
    obtain ⟨_, rfl⟩ := (buildMethod_ok_iff ..).mp also
    exact sameRoutes_methodOf order request other rearranged method separator

/-- The fields of `sumRequest`, with the first one moved to the end. -/
def turnedRequest : MessageDef :=
  { name := "SumRequest"
    fields := [⟨"tags", .scalar .string, true⟩, ⟨"filter", .message "Filter", false⟩,
      ⟨"a", .scalar .int64, false⟩] }

theorem turnedRequest_sameRoutes :
    Rearranged (finRotate 3) sumRequest.fields turnedRequest.fields ∧
    ∃ second, buildMethod sumMethod turnedRequest "," = .ok second ∧
      SameRoutes (finRotate 3) (methodOf sumMethod sumRequest ",") second := by
  have rearranged : Rearranged (finRotate 3) sumRequest.fields turnedRequest.fields :=
    ⟨rfl, rfl, by decide⟩
  obtain ⟨succeeds, same⟩ :=
    buildMethod_rearranged (finRotate 3) sumMethod sumRequest turnedRequest "," rearranged
  obtain ⟨second, success⟩ := succeeds.mpr ⟨_, buildMethod_sumMethod⟩
  exact ⟨rearranged, second, success, same _ second buildMethod_sumMethod success⟩

end HttpBinding.Model
