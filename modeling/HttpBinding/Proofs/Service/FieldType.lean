import HttpBinding.Service.Read
import Mathlib.Logic.Function.Basic

/-!
The written form of a field type. Each type has one text and comes back from it, no two types
share a text, and no other text is taken. In a description such a text gives the type that it
was written for, and any other text is told in the fault.
-/
namespace HttpBinding.Service

namespace Scalar

theorem mem_all (scalar : Scalar) : scalar ∈ all := by
  cases scalar <;> decide

theorem ofName?_name (scalar : Scalar) : ofName? scalar.name = some scalar := by
  cases scalar <;> rfl

theorem ofName?_eq_some_iff (text : String) (scalar : Scalar) :
    ofName? text = some scalar ↔ scalar.name = text := by
  constructor
  · intro found
    simpa using List.find?_some found
  · rintro rfl
    exact ofName?_name scalar

end Scalar

namespace FieldType

/-! The marks in front of a name -/

theorem afterStart?_eq_some_iff (start text rest : List Char) :
    afterStart? start text = some rest ↔ text = start ++ rest := by
  induction start generalizing text with
  | nil => simp [afterStart?]
  | cons s start ih =>
      cases text with
      | nil => simp [afterStart?]
      | cons c text =>
          by_cases same : s = c
          · simp [afterStart?, same, ih]
          · simp [afterStart?, same, Ne.symm same]

theorem afterStart?_append (start rest : List Char) :
    afterStart? start (start ++ rest) = some rest :=
  (afterStart?_eq_some_iff start (start ++ rest) rest).mpr rfl

theorem afterStart?_mark_iff (mark text : String) (name : List Char) :
    afterStart? mark.toList text.toList = some name ↔ mark ++ String.ofList name = text := by
  rw [afterStart?_eq_some_iff, ← String.toList_inj, String.toList_append, String.toList_ofList,
    eq_comm]

/-! Writing and reading -/

theorem parse?_render (type : FieldType) : parse? type.render = some type := by
  cases type with
  | scalar scalar => cases scalar <;> rfl
  | message name =>
      have rest := afterStart?_append "message:".toList name.toList
      simp only [parse?, render, String.toList_append, rest, String.ofList_toList]
  | enum name =>
      -- The first letters differ.
      have other : afterStart? "message:".toList ("enum:".toList ++ name.toList) = none := rfl
      have rest := afterStart?_append "enum:".toList name.toList
      simp only [parse?, render, String.toList_append, other, rest, String.ofList_toList]

theorem render_of_parse? (text : String) (type : FieldType) (read : parse? text = some type) :
    type.render = text := by
  -- One case for each way of reading, in the order in which they are tried.
  rw [parse?] at read
  split at read
  case h_1 name behind =>
    cases read
    exact (afterStart?_mark_iff "message:" text name).mp behind
  case h_2 =>
    split at read
    case h_1 name behind =>
      cases read
      exact (afterStart?_mark_iff "enum:" text name).mp behind
    case h_2 =>
      obtain ⟨scalar, named, rfl⟩ := Option.map_eq_some_iff.mp read
      exact (Scalar.ofName?_eq_some_iff text scalar).mp named

theorem parse?_eq_some_iff (text : String) (type : FieldType) :
    parse? text = some type ↔ type.render = text := by
  constructor
  · exact render_of_parse? text type
  · rintro rfl
    exact parse?_render type

/-! What is taken -/

/-- The texts that are taken: the names of the scalars, and whatever begins with a mark. -/
def Accepted (text : String) : Prop :=
  text ∈ Scalar.all.map Scalar.name ∨
    "message:".toList <+: text.toList ∨ "enum:".toList <+: text.toList

instance : DecidablePred Accepted := fun text =>
  inferInstanceAs (Decidable (text ∈ Scalar.all.map Scalar.name ∨ _ ∨ _))

theorem mark_isPrefix_iff (mark text : String) :
    mark.toList <+: text.toList ↔ ∃ name, mark ++ name = text := by
  constructor
  · rintro ⟨name, whole⟩
    exact ⟨String.ofList name, String.toList_inj.mp (by simpa using whole)⟩
  · rintro ⟨name, rfl⟩
    exact ⟨name.toList, String.toList_append.symm⟩

theorem accepted_iff (text : String) : Accepted text ↔ ∃ type, render type = text := by
  rw [Accepted, mark_isPrefix_iff, mark_isPrefix_iff, List.mem_map]
  constructor
  · rintro (⟨scalar, _, named⟩ | ⟨name, marked⟩ | ⟨name, marked⟩)
    · exact ⟨.scalar scalar, named⟩
    · exact ⟨.message name, marked⟩
    · exact ⟨.enum name, marked⟩
  · rintro ⟨type, written⟩
    cases type with
    | scalar scalar => exact .inl ⟨scalar, Scalar.mem_all scalar, written⟩
    | message name => exact .inr (.inl ⟨name, written⟩)
    | enum name => exact .inr (.inr ⟨name, written⟩)

theorem parse?_eq_none_iff (text : String) : parse? text = none ↔ ¬ Accepted text := by
  rw [accepted_iff, Option.eq_none_iff_forall_ne_some]
  simp only [ne_eq, parse?_eq_some_iff, not_exists]

theorem map_render_parse?_iff (text : String) :
    (parse? text).map render = some text ↔ Accepted text := by
  rw [accepted_iff, Option.map_eq_some_iff]
  constructor
  · rintro ⟨type, _, written⟩
    exact ⟨type, written⟩
  · rintro ⟨type, written⟩
    exact ⟨type, (parse?_eq_some_iff text type).mpr written, written⟩

theorem render_injective : Function.Injective render := by
  have inverse : Function.IsPartialInv render parse? :=
    fun type text => parse?_eq_some_iff text type
  exact inverse.injective

/-- Types and the texts that are taken correspond one to one: writing and reading undo one
another, whatever stands behind a mark. -/
theorem parse?_inverts_render :
    (∀ text type, parse? text = some type ↔ type.render = text) ∧
      (∀ type, parse? type.render = some type) ∧
      (∀ text, (parse? text).isSome ↔ Accepted text) ∧
      (∀ text, (parse? text).map render = some text ↔ Accepted text) ∧
      Function.Injective render := by
  refine ⟨parse?_eq_some_iff, parse?_render, ?_, map_render_parse?_iff, render_injective⟩
  intro text
  rw [← not_iff_not, ← parse?_eq_none_iff, Option.not_isSome_iff_eq_none]

/-- Names that look like another type's text are read as they stand. -/
example :
    parse? "message:enum:bool" = some (message "enum:bool") ∧
      parse? "enum:" = some (enum "") ∧ ¬ Accepted "message" := by decide

/-! Types in descriptions -/

theorem readType_outcome (dialect : Dialect) (document : Document) (before after : Nat)
    (text : String) (read : (readText dialect document).run before = .ok (text, after)) :
    (∀ type, (readType dialect document).run before = .ok (type, after) ↔ type.render = text) ∧
      ((readType dialect document).run before = .error (.unknownType text) ↔
        ¬ Accepted text) := by
  have outcome : (readType dialect document).run before
      = (parse? text).elim (.error (.unknownType text)) fun type => .ok (type, after) := by
    rw [readType, StateT.run_bind, read]
    refine (pure_bind (text, after) _).trans ?_
    cases parse? text <;> rfl
  simp only [outcome, ← parse?_eq_some_iff, ← parse?_eq_none_iff]
  cases parse? text <;> simp

end FieldType
end HttpBinding.Service
