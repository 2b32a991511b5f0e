import HttpBinding.Model.Route
import HttpBinding.Proofs.Text.Octets
import Mathlib.Data.List.Sort

/-!
The routes of a service in their order: by path, then by verb, then by the place of the
binding. Every binding has one route, so that the order determines the list.
-/
namespace HttpBinding.Model

open Text (octets)

/-- The position of a method in its service, and of a binding in the method. -/
structure Place where
  method : Nat
  binding : Nat

def Place.Before (first second : Place) : Prop :=
  first.method < second.method ∨ first.method = second.method ∧ first.binding < second.binding

def BoundService.routeAt? (service : BoundService) (place : Place) : Option Route := do
  let method ← service.methods[place.method]?
  let binding ← method.bindings[place.binding]?
  return {
    verb := binding.verb
    path := binding.template
    basePath := binding.basePath
    method := method.name
    label := binding.label }

/-- By the octets of the paths, then by those of the verbs, then by the places. -/
def Precedes (first second : Place × Route) : Prop :=
  octets first.2.path < octets second.2.path ∨ first.2.path = second.2.path ∧
    (octets first.2.verb.name < octets second.2.verb.name ∨
      first.2.verb.name = second.2.verb.name ∧ first.1.Before second.1)

/-- The routes of all places, one for each, in order. -/
structure Listing (service : BoundService) (placed : List (Place × Route)) : Prop where
  complete : ∀ place route, (place, route) ∈ placed ↔ service.routeAt? place = some route
  ordered : placed.Pairwise Precedes

theorem Place.before_asymm (first second : Place) (before : first.Before second) :
    ¬ second.Before first := by
  rintro after
  simp only [Place.Before] at before after
  omega

theorem precedes_asymm (first second : Place × Route) (before : Precedes first second) :
    ¬ Precedes second first := by
  simp only [Precedes, Text.octets_lt_iff] at before ⊢
  rintro after
  rcases before with lower | ⟨samePath, lower | ⟨sameVerb, ahead⟩⟩
  · rcases after with higher | ⟨same, _⟩
    · exact String.lt_asymm lower higher
    · exact String.ne_of_lt lower same.symm
  · rcases after with higher | ⟨_, higher | ⟨same, _⟩⟩
    · exact String.ne_of_lt higher samePath.symm
    · exact String.lt_asymm lower higher
    · exact String.ne_of_lt lower same.symm
  · rcases after with higher | ⟨_, higher | ⟨_, behind⟩⟩
    · exact String.ne_of_lt higher samePath.symm
    · exact String.ne_of_lt higher sameVerb.symm
    · exact Place.before_asymm _ _ ahead behind

instance : Std.Asymm Precedes := ⟨precedes_asymm⟩

theorem Listing.unique (service : BoundService) (placed again : List (Place × Route))
    (listed : Listing service placed) (relisted : Listing service again) : placed = again :=
  listed.ordered.eq_of_mem_iff relisted.ordered fun (place, route) =>
    (listed.complete place route).trans (relisted.complete place route).symm

theorem pairwise_zipIdx {α : Type} (items : List α) :
    items.zipIdx.Pairwise fun first second => first.2 < second.2 := by
  rw [← List.pairwise_map, List.zipIdx_map_snd]
  exact List.pairwise_lt_range'

/-- The routes of a service with their places, in method order. -/
def placedRoutes (service : BoundService) : List (Place × Route) :=
  service.methods.zipIdx.flatMap fun (method, position) =>
    method.bindings.zipIdx.map fun (binding, index) =>
      (⟨position, index⟩, Route.ofBinding method.name binding)

section Service
variable (service : BoundService)

theorem map_placedRoutes : (placedRoutes service).map Prod.snd = allRoutes service := by
  have each (method : Method) (position : Nat) :
      (method.bindings.zipIdx.map fun (binding, index) =>
        ((⟨position, index⟩ : Place), Route.ofBinding method.name binding)).map Prod.snd
        = method.bindings.map (Route.ofBinding method.name) := by
    rw [← congrArg (List.map _) (List.zipIdx_map_fst 0 method.bindings), List.map_map, List.map_map]
    rfl
  conv => rhs; rw [allRoutes, ← List.zipIdx_map_fst 0 service.methods]
  simp only [placedRoutes, List.map_flatMap, each, List.flatMap_map]

theorem mem_placedRoutes_iff (place : Place) (route : Route) :
    (place, route) ∈ placedRoutes service ↔ service.routeAt? place = some route := by
  obtain ⟨position, index⟩ := place
  simp [placedRoutes, BoundService.routeAt?, Route.ofBinding, List.mem_zipIdx_iff_getElem?,
    Option.bind_eq_some_iff]

theorem placedRoutes_before :
    (placedRoutes service).Pairwise fun first second => first.1.Before second.1 := by
  rw [placedRoutes, List.pairwise_flatMap]
  constructor
  · rintro ⟨method, position⟩ _
    rw [List.pairwise_map]
    exact (pairwise_zipIdx method.bindings).imp fun before => .inr ⟨rfl, before⟩
  · refine (pairwise_zipIdx service.methods).imp ?_
    rintro ⟨method, position⟩ ⟨later, following⟩ before first member second found
    obtain ⟨_, _, rfl⟩ := List.mem_map.mp member
    obtain ⟨_, _, rfl⟩ := List.mem_map.mp found
    exact .inl before

/-- The same, sorted by path and verb. -/
def sortedRoutes : List (Place × Route) :=
  (placedRoutes service).mergeSort fun first second => first.2.le second.2

theorem map_sortedRoutes : (sortedRoutes service).map Prod.snd = collectRoutes service := by
  have kept : ∀ first ∈ placedRoutes service, ∀ second ∈ placedRoutes service,
      first.2.le second.2 = Route.le (Prod.snd first) (Prod.snd second) := fun _ _ _ _ => rfl
  rw [sortedRoutes, List.map_mergeSort kept, map_placedRoutes, collectRoutes]

end Service

theorem Route.le_iff (first second : Route) : first.le second = true ↔
    first.path < second.path ∨
      first.path = second.path ∧ first.verb.name ≤ second.verb.name := by
  rw [Route.le]
  split
  · next same => simp [same]
  · next differs => simp [differs]

theorem Route.le_trans (first second third : Route) (start : first.le second = true)
    (further : second.le third = true) : first.le third = true := by
  rw [Route.le_iff] at start further ⊢
  rcases start with lower | ⟨same, verb⟩
  · rcases further with higher | ⟨again, _⟩
    · exact .inl (String.lt_trans lower higher)
    · exact .inl (again ▸ lower)
  · rcases further with higher | ⟨again, later⟩
    · exact .inl (same ▸ higher)
    · exact .inr ⟨same.trans again, String.le_trans verb later⟩

theorem Route.le_total (first second : Route) : (first.le second || second.le first) = true := by
  rw [Bool.or_eq_true, Route.le_iff, Route.le_iff]
  by_cases lower : first.path < second.path
  · exact .inl (.inl lower)
  by_cases higher : second.path < first.path
  · exact .inr (.inl higher)
  have same : first.path = second.path := String.le_antisymm higher lower
  exact (String.le_total first.verb.name second.verb.name).imp
    (fun verb => .inr ⟨same, verb⟩) fun verb => .inr ⟨same.symm, verb⟩

/-- Two routes that were numbered and then sorted: equal ones keep the order of their numbers. -/
theorem precedes_of_sorted (placed : List (Place × Route))
    (before : placed.Pairwise fun first second => first.1.Before second.1)
    (first second : (Place × Route) × Nat) (member : first ∈ placed.zipIdx)
    (found : second ∈ placed.zipIdx) (different : first ≠ second)
    (sorted : List.zipIdxLE (fun first second => first.2.le second.2) first second = true) :
    Precedes first.1 second.1 := by
  have le : first.1.2.le second.1.2 = true := by
    by_contra above
    simp [List.zipIdxLE, above] at sorted
  rcases (Route.le_iff first.1.2 second.1.2).mp le with lower | ⟨same, verb⟩
  · exact .inl ((Text.octets_lt_iff ..).mpr lower)
  refine .inr ⟨same, ?_⟩
  by_cases tied : second.1.2.verb.name ≤ first.1.2.verb.name
  · have back : second.1.2.le first.1.2 = true := (Route.le_iff ..).mpr (.inr ⟨same.symm, tied⟩)
    have numbered : first.2 ≤ second.2 := by simpa [List.zipIdxLE, le, back] using sorted
    have firstAt := List.mem_zipIdx_iff_getElem?.mp member
    have secondAt := List.mem_zipIdx_iff_getElem?.mp found
    have apart : first.2 ≠ second.2 := by
      intro equal
      rw [equal, secondAt] at firstAt
      exact different (Prod.ext (Option.some.inj firstAt).symm equal)
    obtain ⟨firstInside, firstThere⟩ := List.getElem?_eq_some_iff.mp firstAt
    obtain ⟨secondInside, secondThere⟩ := List.getElem?_eq_some_iff.mp secondAt
    have ahead := List.pairwise_iff_getElem.mp before first.2 second.2 firstInside secondInside
      (Nat.lt_of_le_of_ne numbered apart)
    rw [firstThere, secondThere] at ahead
    exact .inr ⟨String.le_antisymm verb tied, ahead⟩
  · exact .inl ((Text.octets_lt_iff ..).mpr (String.not_le.mp tied))

section Service
variable (service : BoundService)

-- The routes are numbered, since two of them may be equal in all that the sort looks at.
theorem sortedRoutes_ordered : (sortedRoutes service).Pairwise Precedes := by
  have sorted := List.pairwise_mergeSort
    (List.zipIdxLE_trans fun first second third : Place × Route =>
      Route.le_trans first.2 second.2 third.2)
    (List.zipIdxLE_total fun first second => Route.le_total first.2 second.2)
    (placedRoutes service).zipIdx
  have distinct : ((placedRoutes service).zipIdx.mergeSort
      (List.zipIdxLE fun first second => first.2.le second.2)).Nodup :=
    (List.mergeSort_perm ..).nodup_iff.mpr <|
      (pairwise_zipIdx (placedRoutes service)).imp fun before same => by simp [same] at before
  rw [sortedRoutes, ← List.mergeSort_zipIdx, List.pairwise_map]
  refine (sorted.and distinct).imp_of_mem ?_
  intro first second member found ⟨inOrder, different⟩
  exact precedes_of_sorted _ (placedRoutes_before service) first second
    (List.mem_mergeSort.mp member) (List.mem_mergeSort.mp found) different inOrder

theorem sortedRoutes_listing : Listing service (sortedRoutes service) := by
  refine ⟨fun place route => ?_, sortedRoutes_ordered service⟩
  rw [sortedRoutes, List.mem_mergeSort, mem_placedRoutes_iff]

/-- The listing of a service has every route once, by path and verb and then in method order,
and there is no other such list. -/
theorem collectRoutes_in_order : (collectRoutes service).Perm (allRoutes service) ∧
    ∀ routes : List Route,
      (∃ placed, Listing service placed ∧ routes = placed.map Prod.snd) ↔
        routes = collectRoutes service := by
  refine ⟨List.mergeSort_perm .., fun routes => ?_⟩
  have listed := sortedRoutes_listing service
  rw [← map_sortedRoutes]
  constructor
  · rintro ⟨placed, relisted, rfl⟩
    rw [relisted.unique service placed _ listed]
  · rintro rfl
    exact ⟨_, listed, rfl⟩

end Service
end HttpBinding.Model
