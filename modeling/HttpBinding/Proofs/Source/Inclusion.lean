import HttpBinding.Proofs.Source.Rebundling

/-!
Bundles inside bundles. The text of a function and its bundle are made or refused together,
and the bundle starts with the text. What is reached from a function of a bundle is reached
from the function that the bundle is of, so that its bundle holds nothing new.
-/
namespace HttpBinding.Source

theorem excerpts_cons (text : List Char) (item : Item) (rest : List Item) :
    excerpts text (item :: rest) = String.ofList (item.excerpt text) ∨
    excerpts text (item :: rest)
      = String.ofList (item.excerpt text) ++ "\n\n" ++ excerpts text rest := by
  cases rest with
  | nil => exact .inl (by simp [excerpts])
  | cons next rest => exact .inr (by simp [excerpts])

section Members
variable (items : List Item) (name : String)

theorem items_subset_bundled (reference : Reference)
    (reached : Reachable (Reference.uses items) (.function name) reference) :
    reference.items items ⊆ bundled items name :=
  fun item own => (mem_bundled_iff items name item).mpr ⟨reference, reached, own⟩

-- No item belongs to two references, so an item is there because its own is reached.
theorem reachable_of_owner (item : Item) (reference : Reference)
    (member : item ∈ bundled items name) (owner : item.owner? = some reference) :
    Reachable (Reference.uses items) (.function name) reference := by
  obtain ⟨source, reached, own⟩ := (mem_bundled_iff items name item).mp member
  have same := (owner?_of_mem_items items source item own).symm.trans owner
  rwa [← Option.some.inj same]

theorem bundled_eq_cons (item : Item) (found : findFunction? items name = some item) :
    ∃ rest, bundled items name = item :: rest := by
  have ordered := breadthFirst_reached items (.function name)
  rw [bundled, ordered.mentioned, List.eraseDups_cons, List.flatMap_cons]
  simp only [Reference.items, found, Option.toList_some, List.singleton_append]
  exact ⟨_, rfl⟩

theorem bundled_subset (other : String)
    (reached : Reachable (Reference.uses items) (.function name) (.function other)) :
    bundled items other ⊆ bundled items name := by
  intro item member
  obtain ⟨reference, further, own⟩ := (mem_bundled_iff items other item).mp member
  exact items_subset_bundled items name reference (reached.trans further) own

end Members

/-! Both entry points -/

/-- How a function and its bundle come out: both are refused for the same reason, or the
bundle starts with the text of the function, and every function that it holds has a bundle
of its own, which brings no other items. -/
inductive MadeTogether (file : SourceFile) (name : String) :
    Except ExcerptError String → Except ExcerptError String → Prop where
  | malformed (unread : items? file.text.toList = none) :
      MadeTogether file name (.error (.malformed file.path)) (.error (.malformed file.path))
  | absent (items : List Item) (parsed : items? file.text.toList = some items)
      (undeclared : ¬ Declares items (.function name)) :
      MadeTogether file name (.error (.functionNotFound file.path name))
        (.error (.functionNotFound file.path name))
  | made (items : List Item) (item : Item) (text bundle : String)
      (parsed : items? file.text.toList = some items)
      (first : FirstOf (fun item => item.declared = .function name) items item)
      (alone : text = String.ofList (item.excerpt file.text.toList))
      (whole : bundle = excerpts file.text.toList (bundled items name))
      (starts : bundle = text ∨ ∃ rest, bundle = text ++ "\n\n" ++ rest)
      (inner : ∀ member ∈ bundled items name, ∀ other, member.declared = .function other →
        bundleText file other = .ok (excerpts file.text.toList (bundled items other)) ∧
        bundled items other ⊆ bundled items name) :
      MadeTogether file name (.ok text) (.ok bundle)

theorem functionText_bundleText_together (file : SourceFile) (name : String) :
    MadeTogether file name (functionText file name) (bundleText file name) := by
  have located := located_locate file name
  unfold functionText bundleText
  generalize locate file name = outcome at located ⊢
  cases located with
  | malformed unread => exact .malformed unread
  | absent items parsed undeclared => exact .absent items parsed undeclared
  | found items item parsed first =>
      obtain ⟨rest, starts⟩ := bundled_eq_cons items name item
        ((find?_declared_eq_some_iff ..).mpr first)
      refine .made items item _ _ parsed first rfl rfl ?_ ?_
      · have parts := excerpts_cons file.text.toList item rest
        rw [← starts] at parts
        exact parts.imp_right fun whole => ⟨_, whole⟩
      · intro member inside other declared
        have among := mem_items_of_mem_bundled items name member inside
        have reached := reachable_of_owner items name member (.function other) inside
          (by simp [Item.owner?, declared])
        exact ⟨bundleText_eq_excerpts file other items parsed ⟨member, among, declared⟩,
          bundled_subset items name other reached⟩

theorem cartFile_together :
    MadeTogether cartFile "pay" (.ok "fn pay(c: Cart) { sum() }") (.ok cartBundle) := by
  have alone : functionText cartFile "pay" = .ok "fn pay(c: Cart) { sum() }" := by decide +kernel
  have together := functionText_bundleText_together cartFile "pay"
  rwa [alone, bundleText_cartFile] at together

end HttpBinding.Source
