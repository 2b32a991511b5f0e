import HttpBinding.Proofs.Identifier.Ordinal
import HttpBinding.Proofs.Model.Placement

/-!
Local variables of a whole method. A local is the form of a field, the name of the
method and the position of the route in words. On one route the builder keeps them
apart; on two routes they are apart unless the words of one position end those of the
other and the longer form makes up for the difference.
-/
namespace HttpBinding.Model

open Identifier (decimalDigits ordinal spelled)
open Service (FieldDef MessageDef MethodDef Rule)

/-- The field at a position in the binding at a position. -/
def Method.fieldAt? (method : Method) (place : Nat × Nat) : Option Field :=
  method.bindings[place.1]?.bind fun binding => binding.fields[place.2]?

/-- The digits of `position` end those of `later`, and the words of what stands in front
of them there stand in front of the method's name here. -/
def Absorbs (method form other : String) (position later : Nat) : Prop :=
  ∃ extra, extra ≠ [] ∧ decimalDigits later = extra ++ decimalDigits position ∧
    (form ++ method).toList = (other ++ method).toList ++ spelled extra

theorem fieldAt?_methodOf (method : MethodDef) (request : MessageDef) (separator : String)
    (place : Nat × Nat) (field : Field)
    (found : (methodOf method request separator).fieldAt? place = some field) :
    ∃ rule definition, method.annotations[place.1]? = some rule ∧
      request.fields[place.2]? = some definition ∧
      field = fieldOf separator (label method.name place.1) rule definition := by
  obtain ⟨binding, there, inside⟩ := Option.bind_eq_some_iff.mp found
  simp only [methodOf, List.getElem?_mapIdx, Option.map_eq_some_iff] at there
  obtain ⟨rule, annotated, rfl⟩ := there
  simp only [bindingOf, List.getElem?_map, Option.map_eq_some_iff] at inside
  obtain ⟨definition, declared, rfl⟩ := inside
  exact ⟨rule, definition, annotated, declared, rfl⟩

theorem toList_localName (separator method : String) (position : Nat) (rule : Rule)
    (definition : FieldDef) :
    (fieldOf separator (label method position) rule definition).localName.toList
      = (camelForm definition ++ method).toList ++ spelled (decimalDigits position) := by
  rw [localName_fieldOf, label, ← String.append_assoc, String.toList_append,
    Identifier.toList_ordinal]

/-- Two texts of a form, the method's name and a position are one exactly if the
positions and the forms are one, or one of them absorbs the other. -/
theorem words_eq_iff (method form other : String) (position later : Nat) :
    (form ++ method).toList ++ spelled (decimalDigits position)
        = (other ++ method).toList ++ spelled (decimalDigits later) ↔
      (position = later ∧ form = other) ∨ Absorbs method form other position later ∨
        Absorbs method other form later position := by
  constructor
  · intro same
    rcases Identifier.spelled_aligned _ _ _ _ (Identifier.decimalDigits_lt position)
      (Identifier.decimalDigits_lt later) same with ⟨extra, digits, text⟩ | ⟨extra, digits, text⟩
    all_goals
      by_cases nothing : extra = []
      · subst nothing
        have positions := Identifier.decimalDigits_injective digits
        have forms : form ++ method = other ++ method := by
          simpa [spelled, ← String.toList_inj, eq_comm] using text
        exact .inl ⟨by simp [positions], (String.append_left_inj method).mp forms⟩
    · exact .inr (.inr ⟨extra, nothing, digits, text⟩)
    · exact .inr (.inl ⟨extra, nothing, digits, text⟩)
  · rintro (⟨rfl, rfl⟩ | ⟨extra, _, digits, text⟩ | ⟨extra, _, digits, text⟩)
    · rfl
    all_goals rw [digits, text, Identifier.spelled_append, List.append_assoc]

theorem not_absorbs_of_lt (method form other : String) (position later : Nat)
    (small : later < 10) : ¬ Absorbs method form other position later := by
  rintro ⟨extra, nonempty, digits, _⟩
  have sizes := congrArg List.length digits
  have some := List.length_pos_iff.mpr nonempty
  have more := List.length_pos_iff.mpr (Identifier.decimalDigits_ne_nil position)
  rw [Identifier.decimalDigits_of_lt later small, List.length_append] at sizes
  simp only [List.length_singleton] at sizes
  omega

/-- When two fields of a method share a local, and that no raw variable is a local. -/
structure LocalsApart (built : Method) : Prop where
  shared_iff : ∀ place other field second, built.fieldAt? place = some field →
    built.fieldAt? other = some second → place ≠ other →
      (field.localName = second.localName ↔
        Absorbs built.name field.camelName second.camelName place.1 other.1 ∨
        Absorbs built.name second.camelName field.camelName other.1 place.1)
  few : built.bindings.length ≤ 10 → ∀ place other field second,
    built.fieldAt? place = some field → built.fieldAt? other = some second → place ≠ other →
      field.localName ≠ second.localName
  raw : ∀ place other field second, built.fieldAt? place = some field →
    built.fieldAt? other = some second → field.localName ++ "Str" ≠ second.localName

section Methods
variable (method : MethodDef) (request : MessageDef) (separator : String)

theorem shared_local_iff (accepted : ∀ rule ∈ method.annotations, Accepted request rule)
    (place other : Nat × Nat) (field second : Field)
    (found : (methodOf method request separator).fieldAt? place = some field)
    (also : (methodOf method request separator).fieldAt? other = some second)
    (apart : place ≠ other) :
    field.localName = second.localName ↔
      Absorbs method.name field.camelName second.camelName place.1 other.1 ∨
      Absorbs method.name second.camelName field.camelName other.1 place.1 := by
  obtain ⟨rule, definition, annotated, declared, rfl⟩ := fieldAt?_methodOf _ _ _ _ _ found
  obtain ⟨_, final, _, stated, rfl⟩ := fieldAt?_methodOf _ _ _ _ _ also
  have distinct : DistinctForms request := (accepted rule (List.mem_of_getElem? annotated)).2
  rw [← String.toList_inj, toList_localName, toList_localName, words_eq_iff]
  refine or_iff_right ?_
  -- On one route, fields with one form are one field.
  rintro ⟨route, form⟩
  have inside := (List.getElem?_eq_some_iff.mp declared).1
  have column : place.2 = other.2 := by
    apply (List.getElem?_inj (by simpa using inside) distinct).mp
    simp [declared, stated, form]
  exact apart (Prod.ext route column)

theorem fieldAt?_position_lt (place : Nat × Nat) (field : Field)
    (found : (methodOf method request separator).fieldAt? place = some field) :
    place.1 < (methodOf method request separator).bindings.length := by
  obtain ⟨binding, there, _⟩ := Option.bind_eq_some_iff.mp found
  exact (List.getElem?_eq_some_iff.mp there).1

theorem raw_ne_local (other : Nat × Nat) (field second : Field)
    (also : (methodOf method request separator).fieldAt? other = some second) :
    field.localName ++ "Str" ≠ second.localName := by
  obtain ⟨rule, final, _, _, rfl⟩ := fieldAt?_methodOf _ _ _ _ _ also
  intro same
  have texts := congrArg String.toList same
  rw [localName_fieldOf, label, ← String.append_assoc, String.toList_append,
    String.toList_append] at texts
  exact Identifier.not_suffix_append_ordinal _ _ ⟨_, texts⟩

end Methods

theorem buildMethod_localsApart (method : MethodDef) (request : MessageDef)
    (separator : String) (built : Method)
    (success : buildMethod method request separator = .ok built) : LocalsApart built := by
  obtain ⟨accepted, rfl⟩ := (buildMethod_ok_iff method request separator built).mp success
  have shared := shared_local_iff method request separator accepted
  refine ⟨shared, ?_, fun _ other field second _ also =>
    raw_ne_local method request separator other field second also⟩
  intro few place other field second found also apart same
  have position := fieldAt?_position_lt method request separator place field found
  have later := fieldAt?_position_lt method request separator other second also
  rcases (shared place other field second found also apart).mp same with absorbs | absorbs
  · exact not_absorbs_of_lt _ _ _ _ _ (later.trans_le few) absorbs
  · exact not_absorbs_of_lt _ _ _ _ _ (position.trans_le few) absorbs

/-! A shared local needs an eleventh route -/

/-- Eleven routes, and a name that is itself the word of a digit. -/
def oneMethod : MethodDef :=
  { name := "One"
    requestType := "OneRequest"
    responseType := "OneReply"
    http := (List.range 11).map fun version => .mk .get s!"/v{version}" none [] }

def oneRequest : MessageDef :=
  { name := "OneRequest"
    fields := [⟨"a", .scalar .int64, false⟩, ⟨"a_one", .scalar .int64, false⟩] }

theorem buildMethod_oneMethod :
    buildMethod oneMethod oneRequest "," = .ok (methodOf oneMethod oneRequest ",") :=
  (buildMethod_ok_iff ..).mpr ⟨by decide +kernel, rfl⟩

theorem oneMethod_localsApart :
    buildMethod oneMethod oneRequest "," = .ok (methodOf oneMethod oneRequest ",") ∧
    LocalsApart (methodOf oneMethod oneRequest ",") :=
  ⟨buildMethod_oneMethod, buildMethod_localsApart oneMethod oneRequest "," _ buildMethod_oneMethod⟩

/-- The second field of the first route and the first field of the eleventh share a local. -/
theorem oneMethod_shares_a_local :
    ∃ built first second, buildMethod oneMethod oneRequest "," = .ok built ∧
      built.fieldAt? (0, 1) = some first ∧ built.fieldAt? (10, 0) = some second ∧
      first.localName = "AOneOneZero" ∧ second.localName = "AOneOneZero" := by
  refine ⟨_, _, _, buildMethod_oneMethod, rfl, rfl, ?_, ?_⟩ <;> decide +kernel

end HttpBinding.Model
