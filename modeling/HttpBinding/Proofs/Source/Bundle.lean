import HttpBinding.Proofs.Source.Layout
import HttpBinding.Proofs.Source.Position
import HttpBinding.Proofs.Source.References

/-!
Bundles. A bundle is the source of what a function reaches, breadth first, each item cut
out of the text unchanged; a text with a byte order mark is another matter, since its
positions are one column early on the first line.
-/
namespace HttpBinding.Source

/-! Verbatim text -/

/-- What stands in a text where an item stands. -/
def Item.source (text : List Char) (item : Item) : List Char :=
  ((content text).drop item.span.start).take (item.span.stop - item.span.start)

def Unmarked (text : List Char) : Prop := text.head? ≠ some Lexer.byteOrderMark

instance (text : List Char) : Decidable (Unmarked text) := inferInstanceAs (Decidable (_ ≠ _))

theorem withoutMark_of_unmarked (text : List Char) (unmarked : Unmarked text) :
    withoutMark text = text := by
  cases text with
  | nil => rfl
  | cons c rest =>
      rw [withoutMark, if_neg]
      exact fun marked => unmarked (congrArg some marked)

theorem content_suffix (text : List Char) : content text <:+ withoutMark text := by
  rw [content]
  split
  · exact List.dropWhile_suffix _
  · exact List.suffix_refl _

theorem breadthFirst_reached (items : List Item) (root : Reference) :
    BreadthFirst (Reference.uses items) root (reached items root) := by
  refine breadthFirst_run (Reference.uses items) root (root :: items.filterMap Item.owner?)
    (items.length + 1) ?_ ?_
  · rw [List.length_cons]
    exact Nat.succ_le_succ (List.length_filterMap_le _ _)
  · intro target reached
    -- Only the root may be the name of no item.
    cases reached with
    | refl => exact List.mem_cons_self
    | tail _ used =>
        exact List.mem_cons_of_mem _
          (mem_owners_of_declared items target (declared_of_mem_uses items _ target used))

theorem declared_of_reachable (items : List Item) (root target : Reference)
    (declared : root.Declared items)
    (reached : Reachable (Reference.uses items) root target) : target.Declared items := by
  cases reached with
  | refl => exact declared
  | tail _ used => exact declared_of_mem_uses items _ target used

/-! Bundles -/

/-- What is located: the file may not be well-formed, or have no function of the name. -/
inductive Located (file : SourceFile) (name : String) :
    Except ExcerptError (List Item × Item) → Prop where
  | malformed (unread : items? file.text.toList = none) :
      Located file name (.error (.malformed file.path))
  | absent (items : List Item) (parsed : items? file.text.toList = some items)
      (undeclared : ¬ Declares items (.function name)) :
      Located file name (.error (.functionNotFound file.path name))
  | found (items : List Item) (item : Item) (parsed : items? file.text.toList = some items)
      (first : FirstOf (fun item => item.declared = .function name) items item) :
      Located file name (.ok (items, item))

theorem located_locate (file : SourceFile) (name : String) :
    Located file name (locate file name) := by
  unfold locate
  cases parsed : items? file.text.toList with
  | none => exact .malformed parsed
  | some items =>
      cases found : findFunction? items name with
      | none =>
          simp only [found]
          refine .absent items parsed fun declared => ?_
          rw [← find?_declared_isSome_iff, ← findFunction?, found] at declared
          cases declared
      | some item =>
          simp only [found]
          exact .found items item parsed ((find?_declared_eq_some_iff ..).mp found)

/-- A bundle is made only of a well-formed file, and of a function of it. -/
theorem parsed_of_bundleText (file : SourceFile) (name bundle : String)
    (bundled : bundleText file name = .ok bundle) :
    ∃ items, items? file.text.toList = some items ∧ Declares items (.function name) := by
  have located := located_locate file name
  unfold bundleText at bundled
  generalize locate file name = outcome at located bundled
  cases located with
  | malformed => cases bundled
  | absent => cases bundled
  | found items item parsed first =>
      obtain ⟨before, after, whole, shown, _⟩ := first
      exact ⟨items, parsed, item, by simp [whole], shown⟩

theorem bundleText_of_parsed (file : SourceFile) (name : String) (items : List Item)
    (parsed : items? file.text.toList = some items) (declared : Declares items (.function name)) :
    bundleText file name = .ok ("\n\n".intercalate
      (((reached items (.function name)).flatMap (Reference.items items)).map
        fun item => String.ofList (item.excerpt file.text.toList))) := by
  have located := located_locate file name
  unfold bundleText
  generalize locate file name = outcome at located ⊢
  cases located with
  | malformed unread => simp [unread] at parsed
  | absent others also undeclared =>
      obtain rfl := Option.some.inj (parsed.symm.trans also)
      exact absurd declared undeclared
  | found others item also first =>
      obtain rfl := Option.some.inj (parsed.symm.trans also)
      rfl

end HttpBinding.Source
