import HttpBinding.Proofs.Source.BreadthFirst
import Mathlib.Data.List.Perm.Subperm

/-!
What paths name and what references stand for. A reference is named by a path only if
the file has an item for it, and stands for the first such item, a type with all of its
implementations. No item belongs to two references, so those that different references
stand for are apart in the file.
-/
namespace HttpBinding.Source

/-- The first item of a file with a property. -/
def FirstOf (holds : Item → Prop) (items : List Item) (item : Item) : Prop :=
  ∃ before after, items = before ++ item :: after ∧ holds item ∧ ∀ earlier ∈ before, ¬ holds earlier

def Declares (items : List Item) (declared : Declared) : Prop :=
  ∃ item ∈ items, item.declared = declared

instance (items : List Item) (declared : Declared) : Decidable (Declares items declared) :=
  inferInstanceAs (Decidable (∃ item ∈ items, item.declared = declared))

/-- A path from the root names nothing. A name on its own names a function if there is one,
and otherwise the first name of a path names a type. -/
inductive Names (items : List Item) (path : PathUse) : Reference → Prop where
  | function (relative : path.rooted = false) (single : path.single = true)
      (declared : Declares items (.function path.first)) :
      Names items path (.function path.first)
  | type (relative : path.rooted = false)
      (unshadowed : path.single = true → ¬ Declares items (.function path.first))
      (declared : Declares items (.type path.first)) :
      Names items path (.type path.first)

/-- A function stands for its first definition; a type for its first definition and then
all implementations for a type of its name, in the order of the file. -/
inductive StandsFor (items : List Item) : Reference → List Item → Prop where
  | function (name : String) (item : Item)
      (first : FirstOf (fun item => item.declared = .function name) items item) :
      StandsFor items (.function name) [item]
  | type (name : String) (item : Item)
      (first : FirstOf (fun item => item.declared = .type name) items item) :
      StandsFor items (.type name)
        (item :: items.filter fun item => item.declared = .implementation (some name))

theorem find?_declared_eq_some_iff (items : List Item) (declared : Declared) (item : Item) :
    (items.find? fun item => item.declared = declared) = some item ↔
      FirstOf (fun item => item.declared = declared) items item := by
  rw [List.find?_eq_some_iff_append]
  constructor
  · rintro ⟨holds, before, after, whole, others⟩
    exact ⟨before, after, whole, by simpa using holds, by simpa using others⟩
  · rintro ⟨before, after, whole, holds, others⟩
    exact ⟨by simpa using holds, before, after, whole, by simpa using others⟩

theorem find?_declared_isSome_iff (items : List Item) (declared : Declared) :
    (items.find? fun item => item.declared = declared).isSome = true ↔
      Declares items declared := by
  simp [Declares]

theorem resolve?_eq_some_iff (items : List Item) (path : PathUse) (reference : Reference) :
    resolve? items path = some reference ↔ Names items path reference := by
  have function := find?_declared_isSome_iff items (.function path.first)
  have type := find?_declared_isSome_iff items (.type path.first)
  constructor
  · intro resolved
    unfold resolve? at resolved
    split_ifs at resolved with rooted named declared
    · obtain rfl := Option.some.inj resolved
      rw [Bool.and_eq_true] at named
      exact .function (by simpa using rooted) named.1 (function.mp named.2)
    · obtain rfl := Option.some.inj resolved
      refine .type (by simpa using rooted) ?_ (type.mp declared)
      intro single shadows
      exact named (by rw [single, findFunction?, function.mpr shadows]; rfl)
  · intro names
    cases names with
    | function relative single declared =>
        simp [resolve?, findFunction?, relative, single, function.mpr declared]
    | type relative unshadowed declared =>
        have notFunction : ¬ (path.single && (findFunction? items path.first).isSome) = true := by
          rw [Bool.and_eq_true]
          rintro ⟨single, shadows⟩
          exact unshadowed single (function.mp shadows)
        rw [resolve?, if_neg (by simp [relative]), if_neg notFunction, findType?,
          if_pos (type.mpr declared)]

/-- The reference that an item belongs to. -/
def Item.owner? (item : Item) : Option Reference :=
  match item.declared with
  | .function name => some (.function name)
  | .type name | .implementation (some name) => some (.type name)
  | .implementation none | .other => none

def Reference.Declared (items : List Item) : Reference → Prop
  | .function name => Declares items (.function name)
  | .type name => Declares items (.type name)

theorem standsFor_items (items : List Item) (reference : Reference)
    (declared : reference.Declared items) : StandsFor items reference (reference.items items) := by
  cases reference with
  | function name =>
      obtain ⟨item, found⟩ := Option.isSome_iff_exists.mp ((find?_declared_isSome_iff ..).mpr declared)
      rw [Reference.items, findFunction?, found]
      exact .function name item ((find?_declared_eq_some_iff ..).mp found)
  | type name =>
      obtain ⟨item, found⟩ := Option.isSome_iff_exists.mp ((find?_declared_isSome_iff ..).mpr declared)
      rw [Reference.items, findType?, found]
      exact .type name item ((find?_declared_eq_some_iff ..).mp found)

theorem declared_of_mem_uses (items : List Item) (source target : Reference)
    (used : target ∈ source.uses items) : target.Declared items := by
  obtain ⟨path, _, resolved⟩ := List.mem_filterMap.mp used
  cases (resolve?_eq_some_iff items path target).mp resolved with
  | function _ _ declared => exact declared
  | type _ _ declared => exact declared

theorem mem_owners_of_declared (items : List Item) (reference : Reference)
    (declared : reference.Declared items) : reference ∈ items.filterMap Item.owner? := by
  rw [List.mem_filterMap]
  cases reference with
  | function name =>
      obtain ⟨item, member, shown⟩ := declared
      exact ⟨item, member, by simp [Item.owner?, shown]⟩
  | type name =>
      obtain ⟨item, member, shown⟩ := declared
      exact ⟨item, member, by simp [Item.owner?, shown]⟩

theorem type_items_subperm (items : List Item) (name : String) (item : Item)
    (member : item ∈ items) (declared : item.declared = .type name) :
    (item :: items.filter fun item => item.declared = .implementation (some name)).Subperm
      (items.filter fun item => item.owner? = some (.type name)) := by
  -- The definition and the implementations are different items: one declares the type.
  let defines (item : Item) : Bool := item.declared = .type name
  let owned := items.filter fun item => item.owner? = some (.type name)
  have definition : [item].Subperm (owned.filter defines) := by
    simp [owned, defines, member, Item.owner?, declared]
  have implementations : (items.filter fun item => item.declared = .implementation (some name)).Subperm
      (owned.filter fun item => !defines item) := by
    rw [List.filter_filter]
    refine (List.monotone_filter_right items fun other => ?_).subperm
    simp +contextual [Item.owner?, defines]
  exact (definition.append implementations).trans (List.filter_append_perm defines owned).subperm

theorem items_subperm_owned (items : List Item) (reference : Reference) :
    (reference.items items).Subperm (items.filter fun item => item.owner? = some reference) := by
  cases reference with
  | function name =>
      cases found : findFunction? items name with
      | none => simp [Reference.items, found]
      | some item =>
          have declared : item.declared = .function name := by simpa using List.find?_some found
          have member := List.mem_of_find?_eq_some found
          simp [Reference.items, found, member, Item.owner?, declared]
  | type name =>
      cases found : findType? items name with
      | none => simp [Reference.items, found]
      | some item =>
          have declared : item.declared = .type name := by simpa using List.find?_some found
          rw [Reference.items, found]
          exact type_items_subperm items name item (List.mem_of_find?_eq_some found) declared

end HttpBinding.Source
