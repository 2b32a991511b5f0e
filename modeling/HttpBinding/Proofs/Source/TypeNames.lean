import HttpBinding.Proofs.Source.Inclusion

/-!
Types in bundles. A type that an item names on its own is in the bundle with all of its
implementations, unless the file has a function of the same name: then the function is taken
for what the name stands for, though a type is asked for there. Nothing else keeps a type out,
and nothing but a name in the bundle brings one in.
-/
namespace HttpBinding.Source

/-! Names of types in a tree -/

namespace Tree

/-- The name of a type that is written as one name, perhaps with arguments. -/
def typeName? : Tree → Option String
  | node (.type .named) [path false [name] _ _] => some name
  | _ => none

mutual

/-- Every type of a tree that is written as one name, in the order of the walk. What is
not looked into has none. -/
def typeNames : Tree → List String
  | path _ _ _ arguments => allTypeNames arguments
  | node kind children => (typeName? (node kind children)).toList ++ allTypeNames children
  | metadata name value => typeNames name ++ allTypeNames value
  | call name _ followed => typeNames name ++ allTypeNames followed

def allTypeNames : List Tree → List String
  | [] => []
  | tree :: rest => typeNames tree ++ allTypeNames rest

end

theorem mem_allPaths_of_typeName? (kind : Kind) (children : List Tree) (name : String)
    (named : typeName? (node kind children) = some name) :
    ⟨false, name, true⟩ ∈ allPaths children := by
  unfold typeName? at named
  split at named
  · rename_i same
    cases same
    cases named
    simp [allPaths, paths]
  · cases named

-- The walk meets a type where it is written: one case for a tree, one for a list of trees.
mutual

theorem mem_paths_of_mem_typeNames (tree : Tree) (name : String) (named : name ∈ tree.typeNames) :
    ⟨false, name, true⟩ ∈ tree.paths := by
  cases tree with
  | path rooted names style arguments =>
      exact List.mem_cons_of_mem _ (mem_allPaths_of_mem_typeNames arguments name named)
  | node kind children =>
      rcases List.mem_append.mp named with own | below
      · exact mem_allPaths_of_typeName? kind children name (Option.mem_toList.mp own)
      · exact mem_allPaths_of_mem_typeNames children name below
  | metadata title value =>
      rcases List.mem_append.mp named with first | inside
      · exact List.mem_append_left _ (mem_paths_of_mem_typeNames title name first)
      · exact List.mem_append_right _ (mem_allPaths_of_mem_typeNames value name inside)
  | call title arguments followed =>
      rcases List.mem_append.mp named with first | inside
      · exact List.mem_append_left _ (mem_paths_of_mem_typeNames title name first)
      · exact List.mem_append_right _ (mem_allPaths_of_mem_typeNames followed name inside)

theorem mem_allPaths_of_mem_typeNames (trees : List Tree) (name : String)
    (named : name ∈ allTypeNames trees) : ⟨false, name, true⟩ ∈ allPaths trees := by
  cases trees with
  | nil => cases named
  | cons tree rest =>
      rcases List.mem_append.mp named with first | later
      · exact List.mem_append_left _ (mem_paths_of_mem_typeNames tree name first)
      · exact List.mem_append_right _ (mem_allPaths_of_mem_typeNames rest name later)

end
end Tree

/-! Types that are brought -/

/-- The first definition of a type is chosen, and so is every implementation for a type of
its name. -/
structure HoldsType (items chosen : List Item) (name : String) : Prop where
  definition : ∃ item ∈ chosen, FirstOf (fun item => item.declared = .type name) items item
  implementations : ∀ item ∈ items, item.declared = .implementation (some name) → item ∈ chosen

/-- Which types are held by the items of a bundle, and what is held in place of a type that
a function hides. -/
structure BringsTypes (items chosen : List Item) : Prop where
  brought : ∀ item ∈ chosen, ∀ name ∈ item.tree.typeNames, Declares items (.type name) →
    ¬ Declares items (.function name) → HoldsType items chosen name
  hidden : ∀ item ∈ chosen, ∀ name ∈ item.tree.typeNames, Declares items (.function name) →
    ∃ other ∈ chosen, FirstOf (fun item => item.declared = .function name) items other
  holds_iff : ∀ name, Declares items (.type name) → (HoldsType items chosen name ↔
    ∃ item ∈ chosen, ∃ path ∈ item.tree.paths, Names items path (.type name))

section Bundles
variable (items : List Item) (root : String)

theorem reachable_of_names (item : Item) (member : item ∈ bundled items root) (path : PathUse)
    (written : path ∈ item.tree.paths) (target : Reference) (names : Names items path target) :
    Reachable (Reference.uses items) (.function root) target := by
  obtain ⟨source, reached, own⟩ := (mem_bundled_iff items root item).mp member
  refine reached.tail (List.mem_filterMap.mpr ⟨path, ?_, (resolve?_eq_some_iff ..).mpr names⟩)
  exact List.mem_flatMap.mpr ⟨item, own, written⟩

theorem exists_names_of_reachable (name : String)
    (reached : Reachable (Reference.uses items) (.function root) (.type name)) :
    ∃ item ∈ bundled items root, ∃ path ∈ item.tree.paths, Names items path (.type name) := by
  -- The root is a function, so that a last step leads to the type.
  cases reached with
  | tail before used =>
      obtain ⟨path, written, resolved⟩ := List.mem_filterMap.mp used
      obtain ⟨item, own, inside⟩ := List.mem_flatMap.mp written
      exact ⟨item, (mem_bundled_iff items root item).mpr ⟨_, before, own⟩, path, inside,
        (resolve?_eq_some_iff ..).mp resolved⟩

theorem exists_standsFor_of_reachable (reference : Reference)
    (declared : reference.Declared items)
    (reached : Reachable (Reference.uses items) (.function root) reference) :
    ∃ own, StandsFor items reference own ∧ own ⊆ bundled items root :=
  ⟨reference.items items, standsFor_items items reference declared,
    items_subset_bundled items root reference reached⟩

theorem holdsType_of_reachable (name : String) (declared : Declares items (.type name))
    (reached : Reachable (Reference.uses items) (.function root) (.type name)) :
    HoldsType items (bundled items root) name := by
  obtain ⟨own, stands, whole⟩ :=
    exists_standsFor_of_reachable items root (.type name) declared reached
  cases stands with
  | type _ definition first =>
      refine ⟨⟨definition, whole List.mem_cons_self, first⟩, fun item among shown => ?_⟩
      exact whole (List.mem_cons_of_mem _ (List.mem_filter.mpr ⟨among, by simpa using shown⟩))

theorem holdsFunction_of_reachable (name : String) (declared : Declares items (.function name))
    (reached : Reachable (Reference.uses items) (.function root) (.function name)) :
    ∃ item ∈ bundled items root,
      FirstOf (fun item => item.declared = .function name) items item := by
  obtain ⟨own, stands, whole⟩ :=
    exists_standsFor_of_reachable items root (.function name) declared reached
  cases stands with
  | function _ item first => exact ⟨item, whole List.mem_cons_self, first⟩

theorem reachable_of_holdsType (name : String)
    (holds : HoldsType items (bundled items root) name) :
    Reachable (Reference.uses items) (.function root) (.type name) := by
  obtain ⟨item, member, _, _, _, declared, _⟩ := holds.definition
  exact reachable_of_owner items root item (.type name) member (by simp [Item.owner?, declared])

theorem bringsTypes_bundled : BringsTypes items (bundled items root) where
  brought item member name named declared unhidden := by
    have written := item.tree.mem_paths_of_mem_typeNames name named
    have names : Names items ⟨false, name, true⟩ (.type name) :=
      .type rfl (fun _ => unhidden) declared
    exact holdsType_of_reachable items root name declared
      (reachable_of_names items root item member _ written _ names)
  hidden item member name named declared := by
    have written := item.tree.mem_paths_of_mem_typeNames name named
    have names : Names items ⟨false, name, true⟩ (.function name) := .function rfl rfl declared
    exact holdsFunction_of_reachable items root name declared
      (reachable_of_names items root item member _ written _ names)
  holds_iff name declared := by
    constructor
    · intro holds
      exact exists_names_of_reachable items root name
        (reachable_of_holdsType items root name holds)
    · rintro ⟨item, member, path, written, names⟩
      exact holdsType_of_reachable items root name declared
        (reachable_of_names items root item member path written _ names)

end Bundles

theorem bundleText_bringsTypes (file : SourceFile) (name : String) (items : List Item)
    (parsed : items? file.text.toList = some items) (declared : Declares items (.function name)) :
    bundleText file name = .ok (excerpts file.text.toList (bundled items name)) ∧
    BringsTypes items (bundled items name) :=
  ⟨bundleText_eq_excerpts file name items parsed declared, bringsTypes_bundled items name⟩

theorem cartFile_bringsTypes : ∃ items, items? cartFile.text.toList = some items ∧
    Declares items (.function "pay") ∧
    bundleText cartFile "pay" = .ok (excerpts cartFile.text.toList (bundled items "pay")) ∧
    BringsTypes items (bundled items "pay") := by
  obtain ⟨items, parsed, declared⟩ :=
    parsed_of_bundleText cartFile "pay" cartBundle bundleText_cartFile
  obtain ⟨made, types⟩ := bundleText_bringsTypes cartFile "pay" items parsed declared
  exact ⟨items, parsed, declared, made, types⟩

/-- A structure and a function of one name. The signature asks for the structure. -/
def metersFile : SourceFile where
  path := "meters.rs"
  text := "\n\n".intercalate ["struct Meters \x7b\n    value: u32,\n\x7d",
    "fn area(side: Meters) \x7b\x7d", "fn Meters() \x7b\x7d\n"]

theorem metersFile_lacks_its_type : ∃ items, items? metersFile.text.toList = some items ∧
    bundleText metersFile "area" = .ok "fn area(side: Meters) {}\n\nfn Meters() {}" ∧
    Declares items (.function "area") ∧ Declares items (.type "Meters") ∧
    (∃ item ∈ bundled items "area", "Meters" ∈ item.tree.typeNames) ∧
    ¬ HoldsType items (bundled items "area") "Meters" := by
  have text : bundleText metersFile "area" = .ok "fn area(side: Meters) {}\n\nfn Meters() {}" := by
    decide +kernel
  have read : (items? metersFile.text.toList).any (fun items =>
      Declares items (.function "area") ∧ Declares items (.type "Meters") ∧
      (∃ item ∈ bundled items "area", "Meters" ∈ item.tree.typeNames) ∧
      ∀ item ∈ bundled items "area", item.declared ≠ .type "Meters") = true := by
    decide +kernel
  obtain ⟨items, parsed, read⟩ := (Option.any_eq_true ..).mp read
  obtain ⟨root, type, asked, absent⟩ := of_decide_eq_true read
  refine ⟨items, parsed, text, root, type, asked, fun holds => ?_⟩
  obtain ⟨item, member, _, _, _, declared, _⟩ := holds.definition
  exact absent item member declared

end HttpBinding.Source
