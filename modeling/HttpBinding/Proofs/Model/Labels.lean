import HttpBinding.Proofs.Model.Placement

/-!
Labels of a method. A label is the name of the method and the position of the binding in
words. The position can be read off the words, so that no two bindings share a label and
each of them is found by its own.
-/
namespace HttpBinding.Model

open Identifier (ordinal readOrdinal?)
open Service (MessageDef MethodDef)

/-- What the label of a binding tells: its position in the method, and so the binding. -/
structure LabelsTell (built : Method) : Prop where
  spelled : ∀ (position : Nat) (binding : Binding), built.bindings[position]? = some binding →
    ∃ words, binding.label = built.name ++ words ∧ readOrdinal? words = some position
  distinct : (built.bindings.map Binding.label).Nodup
  found : ∀ (position : Nat) (binding : Binding), built.bindings[position]? = some binding →
    built.binding? binding.label = some binding

theorem label_injective (method : String) : Function.Injective (label method) := by
  intro position later same
  apply Identifier.ordinal_injective
  exact (String.append_right_inj method).mp same

section Methods
variable (method : MethodDef) (request : MessageDef) (separator : String)

theorem label_at_position (position : Nat) (binding : Binding)
    (there : (methodOf method request separator).bindings[position]? = some binding) :
    binding.label = label method.name position := by
  simp only [methodOf, List.getElem?_mapIdx, Option.map_eq_some_iff] at there
  obtain ⟨rule, _, rfl⟩ := there
  rfl

theorem nodup_labels : ((methodOf method request separator).bindings.map Binding.label).Nodup := by
  have labels : (methodOf method request separator).bindings.map Binding.label
      = (List.range method.annotations.length).map (label method.name) := by
    apply List.ext_getElem
    · simp [methodOf]
    · intro position inside _
      simp [methodOf, bindingOf]
  rw [labels]
  exact List.nodup_range.map (label_injective method.name)

theorem labelsTell_methodOf : LabelsTell (methodOf method request separator) := by
  have distinct := nodup_labels method request separator
  refine ⟨?_, distinct, ?_⟩
  · intro position binding there
    exact ⟨ordinal position, label_at_position method request separator position binding there,
      Identifier.readOrdinal?_ordinal position⟩
  · intro position binding there
    exact find?_key_of_nodup Binding.label _ distinct binding (List.mem_of_getElem? there)

end Methods

theorem ordinals_tell_labels :
    (∀ n, readOrdinal? (ordinal n) = some n) ∧ Function.Injective ordinal ∧
    ∀ method request separator built,
      buildMethod method request separator = .ok built → LabelsTell built := by
  refine ⟨Identifier.readOrdinal?_ordinal, Identifier.ordinal_injective, ?_⟩
  intro method request separator built success
  obtain ⟨_, rfl⟩ := (buildMethod_ok_iff method request separator built).mp success
  exact labelsTell_methodOf method request separator

theorem sumMethod_labelsTell :
    buildMethod sumMethod sumRequest "," = .ok (methodOf sumMethod sumRequest ",") ∧
    LabelsTell (methodOf sumMethod sumRequest ",") := by
  obtain ⟨_, _, tells⟩ := ordinals_tell_labels
  exact ⟨buildMethod_sumMethod, tells sumMethod sumRequest "," _ buildMethod_sumMethod⟩

end HttpBinding.Model
