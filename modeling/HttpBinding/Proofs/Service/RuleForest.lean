import HttpBinding.Service.Description
import Mathlib.Data.List.Sort

/-!
The annotations of a method as a forest of rules. A place is the way to a rule from
the top, one position a level. Places in dictionary order are the rules in pre-order:
a rule comes before the ones under it, and those before its later neighbours.
-/
namespace HttpBinding.Service
namespace Rule

/-- The rule at a place below this one, which is itself the empty place. -/
def at? : Rule → List Nat → Option Rule
  | rule, [] => some rule
  | rule, index :: rest => rule.additional[index]?.bind fun child => child.at? rest

def forestAt? (forest : List Rule) : List Nat → Option Rule
  | [] => none
  | index :: rest => forest[index]?.bind fun rule => rule.at? rest

mutual

def places : Rule → List (List Nat)
  | mk _ _ _ additional => [] :: placesFrom 0 additional

/-- The places in a forest whose first rule has the position `first`. -/
def placesFrom (first : Nat) : List Rule → List (List Nat)
  | [] => []
  | rule :: rest => (places rule).map (first :: ·) ++ placesFrom (first + 1) rest

end

theorem exists_place_iff (rules : List Rule) (place : List Nat) :
    (∃ index rest, place = (0 + index) :: rest ∧ (forestAt? rules (index :: rest)).isSome) ↔
      (forestAt? rules place).isSome := by
  constructor
  · rintro ⟨index, rest, rfl, inside⟩
    rwa [Nat.zero_add]
  · intro inside
    cases place with
    | nil => simp [forestAt?] at inside
    | cons index rest => exact ⟨index, rest, by rw [Nat.zero_add], inside⟩

-- The statements on one rule and on a list of rules are proved together, since the
-- rules below a rule are a list again.
mutual

theorem mem_places (rule : Rule) (place : List Nat) :
    place ∈ places rule ↔ (rule.at? place).isSome := by
  match rule with
  | mk verb path body additional =>
      rw [places, List.mem_cons, mem_placesFrom 0 additional place, exists_place_iff]
      cases place with
      | nil => simp [at?]
      | cons index rest => simp [at?, forestAt?, Rule.additional]

theorem mem_placesFrom (first : Nat) (rules : List Rule) (place : List Nat) :
    place ∈ placesFrom first rules ↔ ∃ index rest, place = (first + index) :: rest ∧
      (forestAt? rules (index :: rest)).isSome := by
  match rules with
  | [] => simp [placesFrom, forestAt?]
  | rule :: others =>
      rw [placesFrom, List.mem_append, List.mem_map, mem_placesFrom (first + 1) others place]
      constructor
      · rintro (⟨rest, inside, rfl⟩ | ⟨index, rest, rfl, inside⟩)
        · exact ⟨0, rest, rfl, by simpa [forestAt?] using (mem_places rule rest).mp inside⟩
        · exact ⟨index + 1, rest, by rw [Nat.add_assoc, Nat.add_comm 1],
            by simpa [forestAt?] using inside⟩
      · rintro ⟨index, rest, rfl, inside⟩
        cases index with
        | zero =>
            exact .inl ⟨rest, (mem_places rule rest).mpr (by simpa [forestAt?] using inside), rfl⟩
        | succ index =>
            exact .inr ⟨index, rest, by rw [Nat.add_assoc, Nat.add_comm 1],
              by simpa [forestAt?] using inside⟩

end

mutual

theorem places_ordered (rule : Rule) : (places rule).Pairwise (· < ·) := by
  match rule with
  | mk verb path body additional =>
      rw [places, List.pairwise_cons]
      refine ⟨?_, placesFrom_ordered 0 additional⟩
      intro place inside
      obtain ⟨index, rest, rfl, _⟩ := (mem_placesFrom 0 additional place).mp inside
      exact List.nil_lt_cons _ _

theorem placesFrom_ordered (first : Nat) (rules : List Rule) :
    (placesFrom first rules).Pairwise (· < ·) := by
  match rules with
  | [] => exact .nil
  | rule :: others =>
      rw [placesFrom, List.pairwise_append, List.pairwise_map]
      refine ⟨?_, placesFrom_ordered (first + 1) others, ?_⟩
      · exact (places_ordered rule).imp fun before => List.cons_lt_cons_iff.mpr (.inr ⟨rfl, before⟩)
      · intro place inside later behind
        obtain ⟨rest, _, rfl⟩ := List.mem_map.mp inside
        obtain ⟨index, tail, rfl, _⟩ := (mem_placesFrom (first + 1) others later).mp behind
        exact List.cons_lt_cons_iff.mpr (.inl (by omega))

end

mutual

theorem map_at?_places (rule : Rule) : (places rule).map rule.at? = rule.flatten.map some := by
  match rule with
  | mk verb path body additional =>
      have below : (placesFrom 0 additional).map (mk verb path body additional).at?
          = (placesFrom 0 additional).map (forestAt? additional) := by
        apply List.map_congr_left
        intro place inside
        obtain ⟨index, rest, rfl, _⟩ := (mem_placesFrom 0 additional place).mp inside
        rfl
      rw [places, List.map_cons, below, flatten, List.map_cons]
      exact congrArg (some _ :: ·) (map_forestAt?_placesFrom [] additional)

/-- What stands in front of the rules shifts their positions and nothing else. -/
theorem map_forestAt?_placesFrom (front rules : List Rule) :
    (placesFrom front.length rules).map (forestAt? (front ++ rules))
      = (flattenAll rules).map some := by
  match rules with
  | [] => rfl
  | rule :: others =>
      have here : ((places rule).map (front.length :: ·)).map (forestAt? (front ++ rule :: others))
          = rule.flatten.map some := by
        rw [← map_at?_places rule, List.map_map]
        apply List.map_congr_left
        intro place _
        simp [forestAt?]
      have behind := map_forestAt?_placesFrom (front ++ [rule]) others
      rw [List.length_append, List.append_assoc] at behind
      rw [placesFrom, List.map_append, here, flattenAll, List.map_append]
      exact congrArg (rule.flatten.map some ++ ·) behind

end

/-- The places of all rules of a forest, each once and in pre-order. -/
structure InPreorder (forest : List Rule) (places : List (List Nat)) : Prop where
  ordered : places.Pairwise (· < ·)
  complete : ∀ place, place ∈ places ↔ (forestAt? forest place).isSome

theorem placesFrom_inPreorder (forest : List Rule) : InPreorder forest (placesFrom 0 forest) := by
  refine ⟨placesFrom_ordered 0 forest, ?_⟩
  intro place
  rw [mem_placesFrom, exists_place_iff]

end Rule

theorem MethodDef.annotations_in_preorder (method : MethodDef) :
    ∃ places, Rule.InPreorder method.http places ∧
      places.map (Rule.forestAt? method.http) = method.annotations.map some :=
  ⟨Rule.placesFrom 0 method.http, Rule.placesFrom_inPreorder method.http,
    Rule.map_forestAt?_placesFrom [] method.http⟩

namespace Rule

theorem InPreorder.unique (forest : List Rule) (places again : List (List Nat))
    (listed : InPreorder forest places) (relisted : InPreorder forest again) : places = again :=
  listed.ordered.eq_of_mem_iff relisted.ordered fun place =>
    (listed.complete place).trans (relisted.complete place).symm

/-- The annotations are the rules at the places, one by one. -/
theorem InPreorder.annotation_iff (method : MethodDef) (places : List (List Nat))
    (preorder : InPreorder method.http places) (position : Nat) (rule : Rule) :
    method.annotations[position]? = some rule ↔
      ∃ place, places[position]? = some place ∧ forestAt? method.http place = some rule := by
  obtain ⟨listed, ordered, led⟩ := method.annotations_in_preorder
  obtain rfl := preorder.unique method.http places listed ordered
  have leads := congrArg (fun rules => rules[position]?) led
  simp only [List.getElem?_map] at leads
  cases there : places[position]? with
  | none =>
      have absent : method.annotations[position]? = none := by simpa [there, eq_comm] using leads
      simp [absent]
  | some place =>
      rw [there, Option.map_some] at leads
      cases annotated : method.annotations[position]? with
      | none => simp [annotated] at leads
      | some other =>
          rw [annotated, Option.map_some, Option.some.injEq] at leads
          simp [leads]

/-- Earlier in the list is earlier in the forest. -/
theorem InPreorder.before_iff (forest : List Rule) (places : List (List Nat))
    (preorder : InPreorder forest places) (earlier later : Nat) (first second : List Nat)
    (firstAt : places[earlier]? = some first) (secondAt : places[later]? = some second) :
    first < second ↔ earlier < later := by
  obtain ⟨firstInside, rfl⟩ := List.getElem?_eq_some_iff.mp firstAt
  obtain ⟨secondInside, rfl⟩ := List.getElem?_eq_some_iff.mp secondAt
  have ahead := List.pairwise_iff_getElem.mp preorder.ordered
  constructor
  · intro before
    by_contra behind
    rcases Nat.lt_or_eq_of_le (Nat.le_of_not_lt behind) with reversed | rfl
    · exact List.lt_asymm before (ahead later earlier secondInside firstInside reversed)
    · exact List.lt_irrefl _ before
  · exact ahead earlier later firstInside secondInside

theorem InPreorder.position (forest : List Rule) (places : List (List Nat))
    (preorder : InPreorder forest places) (place : List Nat) (rule : Rule)
    (there : forestAt? forest place = some rule) :
    ∃ position : Nat, places[position]? = some place :=
  List.mem_iff_getElem?.mp ((preorder.complete place).mpr (by simp [there]))

end Rule

end HttpBinding.Service
