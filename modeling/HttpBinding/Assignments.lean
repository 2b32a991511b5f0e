/-!
Names with one text each, in the order in which they got it.
-/
namespace HttpBinding

structure Assignments where
  entries : List (String × String)
deriving Repr, DecidableEq

namespace Assignments

def empty : Assignments := ⟨[]⟩

def get? (assignments : Assignments) (name : String) : Option String :=
  assignments.entries.lookup name

def names (assignments : Assignments) : List String := assignments.entries.map (·.1)

def unset (assignments : Assignments) (name : String) : Assignments :=
  ⟨assignments.entries.filter (·.1 ≠ name)⟩

def set (assignments : Assignments) (name text : String) : Assignments :=
  ⟨(assignments.unset name).entries ++ [(name, text)]⟩

/-- Gives `name` a text if it has none. -/
def add (assignments : Assignments) (name text : String) : Assignments :=
  if (assignments.get? name).isSome then assignments else assignments.set name text

/-- Of several texts for one name the first counts. -/
def addAll (assignments : Assignments) (more : List (String × String)) : Assignments :=
  more.foldl (fun assignments (name, text) => assignments.add name text) assignments

theorem lookup_cons_ne (key text other : String) (rest : List (String × String))
    (differs : other ≠ key) : ((key, text) :: rest).lookup other = rest.lookup other := by
  simp [List.lookup_cons, beq_eq_false_iff_ne.mpr differs]

theorem get?_unset_same (assignments : Assignments) (name : String) :
    (assignments.unset name).get? name = none := by
  simp only [get?, unset, List.lookup_eq_none_iff]
  intro entry member
  have kept := of_decide_eq_true (List.mem_filter.mp member).2
  exact bne_iff_ne.mpr (Ne.symm kept)

theorem get?_unset_ne (assignments : Assignments) (name other : String)
    (differs : other ≠ name) : (assignments.unset name).get? other = assignments.get? other := by
  obtain ⟨entries⟩ := assignments
  simp only [get?, unset]
  induction entries with
  | nil => rfl
  | cons entry rest ih =>
      obtain ⟨key, text⟩ := entry
      by_cases named : key = name
      · subst named
        rw [lookup_cons_ne key text other rest differs]
        simpa using ih
      · by_cases found : other = key
        · subst found
          simp [named]
        · rw [lookup_cons_ne key text other rest found]
          simpa [named, lookup_cons_ne key text other _ found] using ih

theorem get?_set_same (assignments : Assignments) (name text : String) :
    (assignments.set name text).get? name = some text := by
  have before := get?_unset_same assignments name
  simp only [get?] at before
  simp only [get?, set, List.lookup_append, before]
  simp

theorem get?_set_ne (assignments : Assignments) (name text other : String)
    (differs : other ≠ name) :
    (assignments.set name text).get? other = assignments.get? other := by
  have before := get?_unset_ne assignments name other differs
  simp only [get?] at before
  simp only [get?, set, List.lookup_append, before]
  simp [List.lookup_cons, beq_eq_false_iff_ne.mpr differs]

theorem get?_add (assignments : Assignments) (name text other : String) :
    (assignments.add name text).get? other
      = (assignments.get? other).or (if other = name then some text else none) := by
  unfold add
  split
  · next set =>
      by_cases same : other = name
      · obtain ⟨before, found⟩ := Option.isSome_iff_exists.mp (same ▸ set)
        rw [found, Option.some_or]
      · simp [same]
  · next unset =>
      by_cases same : other = name
      · subst same
        rw [get?_set_same, Option.not_isSome_iff_eq_none.mp unset, if_pos rfl, Option.none_or]
      · simp [get?_set_ne assignments name text other same, same]

theorem addAll_cons (assignments : Assignments) (name text : String)
    (rest : List (String × String)) :
    assignments.addAll ((name, text) :: rest) = (assignments.add name text).addAll rest := rfl

theorem get?_addAll (assignments : Assignments) (more : List (String × String)) (name : String) :
    (assignments.addAll more).get? name = (assignments.get? name).or (more.lookup name) := by
  induction more generalizing assignments with
  | nil => simp [addAll]
  | cons entry rest ih =>
      obtain ⟨key, text⟩ := entry
      rw [addAll_cons, ih, get?_add, Option.or_assoc]
      by_cases same : name = key
      · simp [same]
      · rw [if_neg same, Option.none_or, lookup_cons_ne key text name rest same]

theorem addAll_of_set (assignments : Assignments) (more : List (String × String))
    (set : ∀ name ∈ more.map (·.1), (assignments.get? name).isSome) :
    assignments.addAll more = assignments := by
  induction more with
  | nil => rfl
  | cons entry rest ih =>
      obtain ⟨name, text⟩ := entry
      rw [List.map_cons, List.forall_mem_cons] at set
      have kept : assignments.add name text = assignments := if_pos set.1
      rw [addAll_cons, kept]
      exact ih set.2

theorem isSome_get?_addAll (assignments : Assignments) (more : List (String × String))
    (name : String) :
    ((assignments.addAll more).get? name).isSome ↔
      (assignments.get? name).isSome ∨ name ∈ more.map (·.1) := by
  rw [get?_addAll, Option.isSome_or, Bool.or_eq_true, List.lookup_isSome_iff]
  simp only [beq_iff_eq, List.mem_map, @eq_comm _ name]

end Assignments
end HttpBinding
