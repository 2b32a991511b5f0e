import HttpBinding.Model.Build
import Mathlib.Data.List.Nodup

/-!
Fields that share a CamelCase form. A local name is the form followed by the label of
the route, so two fields collide on one route exactly if they collide on every route.
-/
namespace HttpBinding.Model

open Service (FieldDef MessageDef)

def camelForm (definition : FieldDef) : String := Identifier.camel definition.name

def DistinctForms (request : MessageDef) : Prop := (request.fields.map camelForm).Nodup

instance (request : MessageDef) : Decidable (DistinctForms request) :=
  inferInstanceAs (Decidable (List.Nodup _))

/-- `second` is the earliest field that repeats a form, and `first` is the only one
before it that has this form. -/
def Collides (fields : List FieldDef) (first second : FieldDef) : Prop :=
  ∃ front middle back, fields = front ++ first :: middle ++ second :: back ∧
    ((front ++ first :: middle).map camelForm).Nodup ∧ camelForm first = camelForm second ∧
    ∀ other ∈ front ++ middle, camelForm other ≠ camelForm second

/-- One step of the search: the local name is claimed already, or it is claimed now. -/
theorem findCollision?_step (claimed : List Field) (field : Field) (rest : List Field)
    (distinct : (claimed.map Field.localName).Nodup) :
    (∃ earlier ∈ claimed, earlier.localName = field.localName ∧
      findCollision? claimed (field :: rest) = some (earlier, field)) ∨
    (∀ earlier ∈ claimed, earlier.localName ≠ field.localName) ∧
      ((field :: claimed).map Field.localName).Nodup ∧
      findCollision? claimed (field :: rest) = findCollision? (field :: claimed) rest := by
  rw [findCollision?]
  cases hit : claimed.find? fun earlier => earlier.localName = field.localName with
  | some earlier =>
      have same : earlier.localName = field.localName := by simpa using List.find?_some hit
      exact .inl ⟨earlier, List.mem_of_find?_eq_some hit, same, rfl⟩
  | none =>
      have fresh : ∀ earlier ∈ claimed, earlier.localName ≠ field.localName := by
        simpa using hit
      exact .inr ⟨fresh, by simpa [distinct] using fresh, rfl⟩

theorem not_nodup_of_claimed (claimed rest : List Field) (earlier field : Field)
    (member : earlier ∈ claimed) (same : earlier.localName = field.localName) :
    ¬ ((claimed ++ field :: rest).map Field.localName).Nodup := by
  rw [List.map_append, List.nodup_append]
  rintro ⟨_, _, apart⟩
  exact apart _ (List.mem_map_of_mem member) _ (by simp) same

theorem findCollision?_eq_none_iff (claimed fields : List Field)
    (distinct : (claimed.map Field.localName).Nodup) :
    findCollision? claimed fields = none ↔ ((claimed ++ fields).map Field.localName).Nodup := by
  induction fields generalizing claimed with
  | nil => simpa [findCollision?] using distinct
  | cons field rest ih =>
      rcases findCollision?_step claimed field rest distinct with
        ⟨earlier, member, same, found⟩ | ⟨_, extended, next⟩
      · have repeated := not_nodup_of_claimed claimed rest earlier field member same
        simpa [found] using repeated
      · have moved : (claimed ++ field :: rest).Perm (field :: claimed ++ rest) :=
          List.perm_middle
        rw [next, ih (field :: claimed) extended]
        exact (moved.map Field.localName).nodup_iff.symm

theorem findCollision?_eq_some_iff (claimed fields : List Field) (first second : Field)
    (distinct : (claimed.map Field.localName).Nodup) :
    findCollision? claimed fields = some (first, second) ↔
      ∃ before back, fields = before ++ second :: back ∧
        ((claimed ++ before).map Field.localName).Nodup ∧ first ∈ claimed ++ before ∧
        first.localName = second.localName := by
  -- The invariant is that the claimed names differ; `before` grows by what is claimed.
  induction fields generalizing claimed with
  | nil => simp [findCollision?]
  | cons field rest ih =>
      rcases findCollision?_step claimed field rest distinct with
        ⟨earlier, member, same, found⟩ | ⟨fresh, extended, next⟩
      · rw [found]
        constructor
        · intro reported
          obtain ⟨rfl, rfl⟩ := Prod.mk.inj (Option.some.inj reported)
          exact ⟨[], rest, rfl, by simpa using distinct, by simpa using member, same⟩
        · rintro ⟨before, back, whole, unclaimed, inside, equal⟩
          cases before with
          | nil =>
              obtain ⟨rfl, rfl⟩ := List.cons.inj whole
              rw [List.append_nil] at inside
              rw [List.inj_on_of_nodup_map distinct inside member (equal.trans same.symm)]
          | cons other before =>
              obtain ⟨rfl, _⟩ := List.cons.inj whole
              exact absurd unclaimed (not_nodup_of_claimed claimed before earlier field member same)
      · have moved (before : List Field) : (claimed ++ field :: before).Perm
            (field :: claimed ++ before) := List.perm_middle
        rw [next, ih (field :: claimed) extended]
        constructor
        · rintro ⟨before, back, rfl, unclaimed, inside, equal⟩
          exact ⟨field :: before, back, rfl,
            ((moved before).map Field.localName).nodup_iff.mpr unclaimed,
            (moved before).mem_iff.mpr inside, equal⟩
        · rintro ⟨before, back, whole, unclaimed, inside, equal⟩
          cases before with
          | nil =>
              obtain ⟨rfl, _⟩ := List.cons.inj whole
              exact absurd equal (fresh first (by simpa using inside))
          | cons other before =>
              obtain ⟨rfl, rfl⟩ := List.cons.inj whole
              exact ⟨before, back, rfl,
                ((moved before).map Field.localName).nodup_iff.mp unclaimed,
                (moved before).mem_iff.mp inside, equal⟩

section Labelled
variable (build : FieldDef → Field) (bindingLabel : String)
  (named : ∀ definition, (build definition).localName = camelForm definition ++ bindingLabel)
include named

theorem localName_eq_iff (first second : FieldDef) :
    (build first).localName = (build second).localName ↔ camelForm first = camelForm second := by
  rw [named, named, String.append_left_inj]

theorem nodup_localNames_iff (definitions : List FieldDef) :
    ((definitions.map build).map Field.localName).Nodup ↔ (definitions.map camelForm).Nodup := by
  have labelled : (definitions.map build).map Field.localName
      = (definitions.map camelForm).map (· ++ bindingLabel) := by
    simp [named]
  rw [labelled, List.nodup_map_iff fun first second => (String.append_left_inj bindingLabel).mp]

theorem findCollision?_map_eq_none_iff (definitions : List FieldDef) :
    findCollision? [] (definitions.map build) = none ↔ (definitions.map camelForm).Nodup := by
  rw [findCollision?_eq_none_iff [] _ (by simp), List.nil_append,
    nodup_localNames_iff build bindingLabel named]

theorem findCollision?_map_eq_some_iff (definitions : List FieldDef) (first second : Field) :
    findCollision? [] (definitions.map build) = some (first, second) ↔
      ∃ earlier later, Collides definitions earlier later ∧
        first = build earlier ∧ second = build later := by
  have sameForm := localName_eq_iff build bindingLabel named
  have sameForms := nodup_localNames_iff build bindingLabel named
  rw [findCollision?_eq_some_iff [] _ first second (by simp)]
  constructor
  · rintro ⟨before, back, whole, distinct, inside, equal⟩
    obtain ⟨claimed, rest, rfl, rfl, behind⟩ := List.map_eq_append_iff.mp whole
    obtain ⟨later, tail, rfl, rfl, _⟩ := List.map_eq_cons_iff.mp behind
    obtain ⟨earlier, member, rfl⟩ := List.mem_map.mp inside
    obtain ⟨front, middle, rfl⟩ := List.append_of_mem member
    have shared := (sameForm earlier later).mp equal
    have forms := (sameForms (front ++ earlier :: middle)).mp distinct
    refine ⟨earlier, later, ⟨front, middle, tail, by simp, forms, shared, ?_⟩, rfl, rfl⟩
    rw [List.map_append, List.map_cons, List.nodup_middle, ← List.map_append,
      List.nodup_cons] at forms
    intro other inside same
    exact forms.1 (shared ▸ same ▸ List.mem_map_of_mem inside)
  · rintro ⟨earlier, later, ⟨front, middle, back, rfl, distinct, equal, _⟩, rfl, rfl⟩
    exact ⟨(front ++ earlier :: middle).map build, back.map build, by simp,
      (sameForms _).mpr distinct, by simp, (sameForm earlier later).mpr equal⟩

end Labelled
end HttpBinding.Model
