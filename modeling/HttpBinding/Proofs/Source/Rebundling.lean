import HttpBinding.Proofs.Source.Bundle

/-!
Bundles of bundles. The items of a bundle name nothing of the file that is not among them, so
that they lead to the same references in the same order, and are their own bundle. Their text
need not be: an item also names what is cut off in front of it, as documentation is, which is
read as an attribute and names `doc`.
-/
namespace HttpBinding.Source

/-! Items apart -/

theorem owner?_of_mem_items (items : List Item) (reference : Reference) (item : Item)
    (member : item ∈ reference.items items) : item.owner? = some reference := by
  have owned := (items_subperm_owned items reference).subset member
  simpa using (List.mem_filter.mp owned).2

theorem mem_of_mem_items (items : List Item) (reference : Reference) (item : Item)
    (member : item ∈ reference.items items) : item ∈ items :=
  (List.mem_filter.mp ((items_subperm_owned items reference).subset member)).1

theorem filter_owned (items : List Item) (reference : Reference) (declared : Declared)
    (owned : ∀ item : Item, item.declared = declared → item.owner? = some reference) :
    ((items.filter fun item => item.owner? = some reference).filter
      fun item => item.declared = declared) = items.filter fun item => item.declared = declared := by
  rw [List.filter_filter]
  refine List.filter_congr fun item _ => ?_
  by_cases shown : item.declared = declared
  · simp [shown, owned item shown]
  · simp [shown]

theorem items_function (items : List Item) (name : String) :
    Reference.items items (.function name)
      = (items.filter fun item => item.declared = .function name).head?.toList := by
  rw [List.head?_filter]
  rfl

theorem items_type (items : List Item) (name : String) :
    Reference.items items (.type name)
      = match (items.filter fun item => item.declared = .type name).head? with
        | some item => item :: items.filter fun item => item.declared = .implementation (some name)
        | none => [] := by
  rw [List.head?_filter]
  rfl

theorem items_filter_owner (items : List Item) (reference : Reference) :
    reference.items (items.filter fun item => item.owner? = some reference)
      = reference.items items := by
  cases reference with
  | function name =>
      simp only [items_function, filter_owned items (.function name) (.function name)
        fun item shown => by simp [Item.owner?, shown]]
  | type name =>
      simp only [items_type,
        filter_owned items (.type name) (.type name)
          fun item shown => by simp [Item.owner?, shown],
        filter_owned items (.type name) (.implementation (some name))
          fun item shown => by simp [Item.owner?, shown]]

theorem items_items (items : List Item) (reference : Reference) :
    reference.items (reference.items items) = reference.items items := by
  cases reference with
  | function name =>
      cases found : findFunction? items name with
      | none =>
          have none : Reference.items items (.function name) = [] := by simp [Reference.items, found]
          rw [none]
          rfl
      | some item =>
          have only : Reference.items items (.function name) = [item] := by
            simp [Reference.items, found]
          have declared : item.declared = .function name := by simpa using List.find?_some found
          rw [only]
          simp [Reference.items, findFunction?, declared]
  | type name =>
      cases found : findType? items name with
      | none =>
          have none : Reference.items items (.type name) = [] := by simp [Reference.items, found]
          rw [none]
          rfl
      | some item =>
          have all : Reference.items items (.type name) = item :: implementationsOf items name := by
            simp [Reference.items, found]
          have declared : item.declared = .type name := by simpa using List.find?_some found
          rw [all]
          simp [Reference.items, findType?, implementationsOf, declared]

theorem flatMap_eq_of_apart {α β : Type} (keys : List α) (values : α → List β) (key : α)
    (distinct : keys.Nodup) (member : key ∈ keys)
    (apart : ∀ other ∈ keys, other ≠ key → values other = []) :
    keys.flatMap values = values key := by
  induction keys with
  | nil => simp at member
  | cons first rest ih =>
      obtain ⟨fresh, distinct⟩ := List.nodup_cons.mp distinct
      rw [List.flatMap_cons]
      by_cases same : first = key
      · have others : rest.flatMap values = [] := by
          rw [List.flatMap_eq_nil_iff]
          intro other among
          exact apart other (List.mem_cons_of_mem first among) fun equal =>
            fresh (same.trans equal.symm ▸ among)
        rw [others, same, List.append_nil]
      · have among : key ∈ rest := (List.mem_cons.mp member).resolve_left (Ne.symm same)
        rw [apart first List.mem_cons_self same, List.nil_append]
        exact ih distinct among fun other also => apart other (List.mem_cons_of_mem first also)

/-- Among the items of several references, each stands for the same items as in the file. -/
theorem items_of_chosen (items : List Item) (references : List Reference) (reference : Reference)
    (distinct : references.Nodup) (member : reference ∈ references) :
    reference.items (references.flatMap (Reference.items items)) = reference.items items := by
  -- No other reference brings items of this one.
  have own : (references.flatMap (Reference.items items)).filter
      (fun item => item.owner? = some reference) = reference.items items := by
    rw [List.filter_flatMap, flatMap_eq_of_apart references _ reference distinct member]
    · exact List.filter_eq_self.mpr fun item among => by
        simpa using owner?_of_mem_items items reference item among
    · intro other _ differs
      refine List.filter_eq_nil_iff.mpr fun item among => ?_
      simpa [owner?_of_mem_items items other item among] using differs
  rw [← items_filter_owner, own, items_items]

/-! Names -/

/-- A part of a file that declares what a path names in it does not change that. -/
theorem resolve?_of_part (part items : List Item) (path : PathUse)
    (within : ∀ declared, Declares part declared → Declares items declared)
    (kept : ∀ target, resolve? items path = some target → target.Declared part) :
    resolve? part path = resolve? items path := by
  ext target
  rw [resolve?_eq_some_iff, resolve?_eq_some_iff]
  constructor
  · intro names
    cases names with
    | function relative single declared => exact .function relative single (within _ declared)
    | type relative unshadowed declared =>
        refine .type relative ?_ (within _ declared)
        intro single shadows
        have named : resolve? items path = some (.function path.first) :=
          (resolve?_eq_some_iff ..).mpr (.function relative single shadows)
        exact unshadowed single (kept _ named)
  · intro names
    have declared := kept target ((resolve?_eq_some_iff ..).mpr names)
    cases names with
    | function relative single _ => exact .function relative single declared
    | type relative unshadowed _ =>
        exact .type relative (fun single shadows => unshadowed single (within _ shadows)) declared

/-! Bundles of bundled items -/

/-- The items that the bundle of a function is made of, in order. -/
def bundled (items : List Item) (name : String) : List Item :=
  (reached items (.function name)).flatMap (Reference.items items)

/-- Items cut out of a text, with blank lines in between. -/
def excerpts (text : List Char) (items : List Item) : String :=
  "\n\n".intercalate (items.map fun item => String.ofList (item.excerpt text))

theorem bundleText_eq_excerpts (file : SourceFile) (name : String) (items : List Item)
    (parsed : items? file.text.toList = some items) (declared : Declares items (.function name)) :
    bundleText file name = .ok (excerpts file.text.toList (bundled items name)) :=
  bundleText_of_parsed file name items parsed declared

/-- Items that lack nothing of a file and hold nothing idle: what one of them names in the file
it names among them, each is led to, and they are their own bundle. -/
structure SelfContained (items chosen : List Item) (name : String) : Prop where
  complete : ∀ item ∈ chosen, ∀ path ∈ item.tree.paths, ∀ target,
    Names chosen path target ↔ Names items path target
  needed : ∀ item ∈ chosen, ∃ reference, item.owner? = some reference ∧
    Reachable (Reference.uses chosen) (.function name) reference
  again : bundled chosen name = chosen

section Again
variable (items : List Item) (name : String)

theorem mem_bundled_iff (item : Item) :
    item ∈ bundled items name ↔
      ∃ reference, Reachable (Reference.uses items) (.function name) reference ∧
        item ∈ reference.items items := by
  simp only [bundled, List.mem_flatMap, (breadthFirst_reached items _).mem_iff]

theorem mem_items_of_mem_bundled (item : Item) (member : item ∈ bundled items name) :
    item ∈ items := by
  obtain ⟨reference, _, own⟩ := (mem_bundled_iff items name item).mp member
  exact mem_of_mem_items items reference item own

theorem declares_of_bundled (declared : Declared) (declares : Declares (bundled items name) declared) :
    Declares items declared := by
  obtain ⟨item, member, shown⟩ := declares
  exact ⟨item, mem_items_of_mem_bundled items name item member, shown⟩

theorem items_bundled (reference : Reference)
    (member : reference ∈ reached items (.function name)) :
    reference.items (bundled items name) = reference.items items :=
  items_of_chosen items _ reference (breadthFirst_reached items _).distinct member

variable (declared : Declares items (.function name))
include declared

theorem declared_bundled (reference : Reference)
    (member : reference ∈ reached items (.function name)) :
    reference.Declared (bundled items name) := by
  have reached := ((breadthFirst_reached items (.function name)).mem_iff reference).mp member
  have stands := standsFor_items items reference
    (declared_of_reachable items (.function name) reference declared reached)
  generalize found : reference.items items = own at stands
  cases stands with
  | function _ item first =>
      obtain ⟨_, _, _, shown, _⟩ := first
      exact ⟨item, (mem_bundled_iff items name item).mpr ⟨_, reached, by simp [found]⟩, shown⟩
  | type _ item first =>
      obtain ⟨_, _, _, shown, _⟩ := first
      exact ⟨item, (mem_bundled_iff items name item).mpr ⟨_, reached, by simp [found]⟩, shown⟩

theorem resolve?_bundled (reference : Reference)
    (member : reference ∈ reached items (.function name)) (item : Item)
    (own : item ∈ reference.items items) (path : PathUse) (written : path ∈ item.tree.paths) :
    resolve? (bundled items name) path = resolve? items path := by
  refine resolve?_of_part _ items path (declares_of_bundled items name) fun target named => ?_
  -- What is named in the bundle was met there, so that its own items are in the bundle too.
  have used : target ∈ reference.uses items :=
    List.mem_filterMap.mpr ⟨path, List.mem_flatMap.mpr ⟨item, own, written⟩, named⟩
  apply declared_bundled items name declared
  exact uses_mem _ _ _ (breadthFirst_reached items _).mentioned reference target member used

theorem uses_bundled (reference : Reference)
    (member : reference ∈ reached items (.function name)) :
    reference.uses (bundled items name) = reference.uses items := by
  rw [Reference.uses, Reference.uses, items_bundled items name reference member]
  refine List.filterMap_congr fun path among => ?_
  obtain ⟨item, own, written⟩ := List.mem_flatMap.mp among
  exact resolve?_bundled items name declared reference member item own path written

theorem breadthFirst_bundled :
    BreadthFirst (Reference.uses (bundled items name)) (.function name)
      (reached items (.function name)) :=
  (breadthFirst_reached items (.function name)).congr (uses_bundled items name declared)

theorem bundled_bundled : bundled (bundled items name) name = bundled items name := by
  have same : reached (bundled items name) (.function name) = reached items (.function name) :=
    (breadthFirst_reached _ _).unique (breadthFirst_bundled items name declared)
  rw [bundled, same]
  exact List.flatMap_congr (items_bundled items name)

theorem selfContained_bundled : SelfContained items (bundled items name) name where
  complete item member path written target := by
    obtain ⟨reference, met, own⟩ := List.mem_flatMap.mp member
    rw [← resolve?_eq_some_iff, ← resolve?_eq_some_iff,
      resolve?_bundled items name declared reference met item own path written]
  needed item member := by
    obtain ⟨reference, met, own⟩ := List.mem_flatMap.mp member
    exact ⟨reference, owner?_of_mem_items items reference item own,
      ((breadthFirst_bundled items name declared).mem_iff reference).mp met⟩
  again := bundled_bundled items name declared

end Again

theorem bundleText_selfContained (file : SourceFile) (name bundle : String)
    (made : bundleText file name = .ok bundle) :
    ∃ items, items? file.text.toList = some items ∧
      bundle = excerpts file.text.toList (bundled items name) ∧
      SelfContained items (bundled items name) name := by
  obtain ⟨items, parsed, declared⟩ := parsed_of_bundleText file name bundle made
  have text := bundleText_eq_excerpts file name items parsed declared
  exact ⟨items, parsed, Except.ok.inj (made.symm.trans text),
    selfContained_bundled items name declared⟩

/-- A type whose implementation leads back to the function, and a function that none uses. -/
def cartFile : SourceFile where
  path := "cart.rs"
  text := "\n\n".intercalate ["/// Pays.\nfn pay(c: Cart) { sum() }", "fn unused() {}",
    "fn sum() {}", "impl Cart { fn buy() { pay() } }", "struct Cart;\n"]

def cartBundle : String := "\n\n".intercalate ["fn pay(c: Cart) { sum() }", "struct Cart;",
  "impl Cart { fn buy() { pay() } }", "fn sum() {}"]

theorem bundleText_cartFile : bundleText cartFile "pay" = .ok cartBundle := by decide +kernel

theorem cartFile_selfContained : bundleText cartFile "pay" = .ok cartBundle ∧
    ∃ items, items? cartFile.text.toList = some items ∧
      cartBundle = excerpts cartFile.text.toList (bundled items "pay") ∧
      SelfContained items (bundled items "pay") "pay" :=
  ⟨bundleText_cartFile, bundleText_selfContained cartFile "pay" cartBundle bundleText_cartFile⟩

/-- Documentation that is cut off has led to the function `doc`. -/
def greetFile : SourceFile := ⟨"greet.rs", "/// Greets.\nfn greet() {}\n\nfn doc() {}\n"⟩

theorem greetFile_not_its_own_bundle :
    bundleText greetFile "greet" = .ok "fn greet() {}\n\nfn doc() {}" ∧
    bundleText ⟨"greet.rs", "fn greet() {}\n\nfn doc() {}"⟩ "greet" = .ok "fn greet() {}" := by
  decide +kernel

-- A byte order mark shifts what is cut out of the first line: the bundle cannot be read.
example : bundleText ⟨"f.rs", "\uFEFFfn f() {}"⟩ "f" = .ok "\uFEFFfn f() \x7b" ∧
    (items? "\uFEFFfn f() \x7b".toList).isNone = true := by
  decide +kernel

end HttpBinding.Source
