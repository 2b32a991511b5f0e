import HttpBinding.Proofs.Source.Layout
import Mathlib.Data.List.TakeWhile

/-!
Functions among the tokens of a file. Only one kind of item is a function. It stands behind
its documentation and its other attributes, starts with one of a few words, gives its name
behind `fn`, and ends with the group that is its body.
-/
namespace HttpBinding.Source

open Reader Tokens

/-! Other items -/

/-- A reader of items that are no functions. -/
class ReadsNoFunction (reader : Reader ItemBody) : Prop where
  other : ∀ tokens body rest, reader.Reads tokens body rest →
    ∀ name, body.declared ≠ .function name

instance readsNoFunction_failure : ReadsNoFunction failure where
  other tokens body rest read := (not_reads_failure body tokens rest read).elim

instance readsNoFunction_bind {α : Type} (first : Reader α) (next : α → Reader ItemBody)
    [others : ∀ value, ReadsNoFunction (next value)] : ReadsNoFunction (first >>= next) where
  other tokens body rest read := by
    obtain ⟨made, between, _, left⟩ := (reads_bind_iff ..).mp read
    exact (others made).other _ _ _ left

instance readsNoFunction_ite (condition : Prop) [Decidable condition]
    (first second : Reader ItemBody) [ReadsNoFunction first] [ReadsNoFunction second] :
    ReadsNoFunction (if condition then first else second) := by
  split <;> infer_instance

theorem readsNoFunction_pure (body : ItemBody) (other : ∀ name, body.declared ≠ .function name) :
    ReadsNoFunction (pure body) where
  other tokens found rest read := by
    obtain ⟨rfl, _⟩ := (reads_pure_iff ..).mp read
    exact other

instance readsNoFunction_unread : ReadsNoFunction (pure .unread) :=
  readsNoFunction_pure _ (by rintro _ ⟨⟩)

instance readsNoFunction_member (children : List Tree) : ReadsNoFunction (pure (.member children)) :=
  readsNoFunction_pure _ (by rintro _ ⟨⟩)

instance readsNoFunction_type (name : String) (children : List Tree) :
    ReadsNoFunction (pure (.read (.type name) children)) :=
  readsNoFunction_pure _ (by rintro _ ⟨⟩)

instance readsNoFunction_implementation (type : Option String) (children : List Tree) :
    ReadsNoFunction (pure (.read (.implementation type) children)) :=
  readsNoFunction_pure _ (by rintro _ ⟨⟩)

instance readsNoFunction_choice (condition : Prop) [Decidable condition] (first second : ItemBody)
    [one : ReadsNoFunction (pure first)] [other : ReadsNoFunction (pure second)] :
    ReadsNoFunction (pure (if condition then first else second)) := by
  split
  · exact one
  · exact other

/-- What is read first does not matter; stated for those readers that are too long for instances
to be found, or that end in a choice. -/
theorem ReadsNoFunction.after {α : Type} {first : Reader α} {next : α → Reader ItemBody}
    (others : ∀ value, ReadsNoFunction (next value)) : ReadsNoFunction (first >>= next) :=
  inferInstance

section Kinds
variable (grammar : Grammar) (shown : Tree)

instance readsNoFunction_externCrate : ReadsNoFunction (externCrate shown) := by
  unfold externCrate
  refine .after fun _ => .after fun _ => .after fun _ => .after fun _ => .after fun _ => ?_
  dsimp only
  split <;> infer_instance

instance readsNoFunction_foreignBlock : ReadsNoFunction (foreignBlock grammar) := by
  unfold foreignBlock
  infer_instance

instance readsNoFunction_externItem : ReadsNoFunction (externItem grammar shown) := by
  unfold externItem
  infer_instance

instance readsNoFunction_useItem : ReadsNoFunction (useItem shown) := by
  unfold useItem
  infer_instance

instance readsNoFunction_staticItem : ReadsNoFunction (staticItem grammar shown) := by
  unfold staticItem
  refine .after fun _ => .after fun _ => .after fun _ => .after fun _ => ?_
  split <;> infer_instance

instance readsNoFunction_constantItem : ReadsNoFunction (constantItem grammar shown) := by
  unfold constantItem
  refine .after fun _ => .after fun found => ?_
  split <;> infer_instance

instance readsNoFunction_moduleItem : ReadsNoFunction (moduleItem grammar shown) := by
  unfold moduleItem
  refine .after fun _ => .after fun _ => .after fun _ => .after fun _ => .after fun _ => ?_
  split
  · infer_instance
  · refine .after ?_
    rintro ⟨attributes, found⟩
    infer_instance

instance readsNoFunction_typeItem : ReadsNoFunction (typeItem grammar shown) := by
  unfold typeItem
  refine .after fun found => ?_
  split <;> infer_instance

instance readsNoFunction_structureItem : ReadsNoFunction (structureItem grammar shown) := by
  unfold structureItem
  infer_instance

instance readsNoFunction_enumItem : ReadsNoFunction (enumItem grammar shown) := by
  unfold enumItem
  infer_instance

instance readsNoFunction_unionItem : ReadsNoFunction (unionItem grammar shown) := by
  unfold unionItem
  infer_instance

instance readsNoFunction_traitRest (parameters : Option (List Tree)) :
    ReadsNoFunction (traitRest grammar shown parameters) := by
  unfold traitRest
  infer_instance

instance readsNoFunction_traitAliasRest (parameters : Option (List Tree)) :
    ReadsNoFunction (traitAliasRest grammar shown parameters) := by
  unfold traitAliasRest
  infer_instance

instance readsNoFunction_traitItem : ReadsNoFunction (traitItem grammar shown) := by
  unfold traitItem
  infer_instance

instance readsNoFunction_implItem : ReadsNoFunction (implItem grammar shown) := by
  unfold implItem
  infer_instance

instance readsNoFunction_macroItem : ReadsNoFunction macroItem := by
  unfold macroItem
  infer_instance

instance readsNoFunction_callItem : ReadsNoFunction callItem := by
  unfold callItem
  infer_instance

instance readsNoFunction_unsafeItem : ReadsNoFunction (unsafeItem grammar shown) := by
  unfold unsafeItem
  infer_instance

end Kinds

/-- Only a function reads as one. -/
theorem functionItem_of_itemBody (grammar : Grammar) (tokens rest : Tokens) (body : ItemBody)
    (name : String) (read : (itemBody grammar).Reads tokens body rest)
    (declared : body.declared = .function name) :
    ∃ shown between, visibility.Reads tokens shown between ∧
      (functionItem grammar shown).Reads between body rest := by
  obtain ⟨shown, between, visible, read⟩ := (reads_bind_iff ..).mp read
  obtain ⟨_, _, ahead, read⟩ := (reads_bind_iff ..).mp read
  obtain ⟨rfl, rfl⟩ := (reads_ahead_iff ..).mp ahead
  refine ⟨shown, between, visible, ?_⟩
  by_cases function : seesFunction false between = true
  · rwa [if_pos function] at read
  · rw [if_neg function] at read
    exact absurd declared (ReadsNoFunction.other _ _ _ read name)

/-! Heads -/

/-- The head of a function: visibility and qualifiers in front of `fn`, and the name. -/
inductive FunctionHead (name : String) : Tokens → Prop where
  | named (span place : Span) (more : Tokens) :
      FunctionHead name (.word "fn" span :: .word name place :: more)
  | qualified {head : Tokens} (word : String) (span : Span)
      (qualifier : word ∈ ["pub", "const", "async", "unsafe", "extern"])
      (others : FunctionHead name head) : FunctionHead name (.word word span :: head)
  | restricted {head : Tokens} (span : Span) (inside : Tokens) (place : Span)
      (others : FunctionHead name head) :
      FunctionHead name (.word "pub" span :: .group .parenthesis inside place :: head)
  | foreign {head : Tokens} (span : Span) (abi : String) (place : Span)
      (others : FunctionHead name head) :
      FunctionHead name (.word "extern" span :: .literal .text abi place :: head)

/-- The words that a function may start with. -/
def functionWords : List String := ["pub", "const", "async", "unsafe", "extern", "fn"]

theorem FunctionHead.first {name : String} {head : Tokens} (headed : FunctionHead name head) :
    ∃ word span more, head = .word word span :: more ∧ word ∈ functionWords := by
  cases headed with
  | named span place more => exact ⟨_, _, _, rfl, by decide⟩
  | qualified word span qualifier others =>
      exact ⟨_, _, _, rfl, List.mem_append_left ["fn"] qualifier⟩
  | restricted span inside place others => exact ⟨_, _, _, rfl, by decide⟩
  | foreign span abi place others => exact ⟨_, _, _, rfl, by decide⟩

/-- A head with other tokens behind it. -/
def StartsFunction (name : String) (tokens rest : Tokens) : Prop :=
  ∃ head, tokens = head ++ rest ∧ FunctionHead name head

section
variable (name : String) (tokens between rest : Tokens)

theorem startsFunction_of_optionalWord (text : String) (found : Bool)
    (qualifier : text ∈ ["pub", "const", "async", "unsafe", "extern"])
    (read : (optionalWord text).Reads tokens found between)
    (starts : StartsFunction name between rest) : StartsFunction name tokens rest := by
  obtain ⟨head, rfl, headed⟩ := starts
  rcases reads_optionalWord _ _ _ _ read with ⟨_, span, rfl⟩ | ⟨_, rfl⟩
  · exact ⟨_, rfl, .qualified text span qualifier headed⟩
  · exact ⟨head, rfl, headed⟩

theorem startsFunction_of_optionalAbi (value : Unit) (read : optionalAbi.Reads tokens value between)
    (starts : StartsFunction name between rest) : StartsFunction name tokens rest := by
  obtain ⟨head, rfl, headed⟩ := starts
  simp only [optionalAbi, reads_bind_iff] at read
  obtain ⟨found, behind, marked, read⟩ := read
  rcases reads_optionalWord _ _ _ _ marked with ⟨rfl, span, rfl⟩ | ⟨rfl, rfl⟩
  · simp only [↓reduceIte, reads_bind_iff, reads_test_iff] at read
    obtain ⟨seen, _, ⟨literal, rfl⟩, read⟩ := read
    cases seen with
    | false =>
        obtain ⟨_, rfl⟩ := (reads_pure_iff ..).mp read
        exact ⟨_, rfl, .qualified "extern" span (by decide) headed⟩
    | true =>
        rw [if_pos rfl, reads_drop_iff] at read
        unfold seesTextLiteral at literal
        split at literal
        · rename_i abi place others
          obtain rfl : others = head ++ rest := read
          exact ⟨_, rfl, .foreign span abi place headed⟩
        · cases literal
  · obtain ⟨_, rfl⟩ := (reads_pure_iff ..).mp read
    exact ⟨head, rfl, headed⟩

theorem startsFunction_of_qualifiers (isSafe : Bool)
    (read : (qualifiers false).Reads tokens isSafe between)
    (starts : StartsFunction name between rest) : StartsFunction name tokens rest := by
  simp only [qualifiers, Bool.false_and, Bool.false_eq_true, ↓reduceIte, reads_bind_iff,
    reads_ahead_iff, reads_pure_iff] at read
  obtain ⟨_, _, const, _, _, async, _, _, ⟨_, _, ⟨rfl, rfl⟩, _, _, restricted, rfl, rfl⟩, _, _, abi,
    _, rfl⟩ := read
  refine startsFunction_of_optionalWord name _ _ rest _ _ (by decide) const ?_
  refine startsFunction_of_optionalWord name _ _ rest _ _ (by decide) async ?_
  refine startsFunction_of_optionalWord name _ _ rest _ _ (by decide) restricted ?_
  exact startsFunction_of_optionalAbi name _ _ rest _ abi starts

theorem startsFunction_of_visibility (shown : Tree)
    (read : visibility.Reads tokens shown between) (starts : StartsFunction name between rest) :
    StartsFunction name tokens rest := by
  obtain ⟨head, rfl, headed⟩ := starts
  simp only [visibility, reads_bind_iff] at read
  obtain ⟨found, behind, marked, read⟩ := read
  rcases reads_optionalWord _ _ _ _ marked with ⟨rfl, span, rfl⟩ | ⟨rfl, rfl⟩
  · simp only [↓reduceIte, reads_bind_iff, reads_test_iff] at read
    obtain ⟨seen, _, ⟨rfl, rfl⟩, read⟩ := read
    split at read
    · simp only [restrictedVisibility, reads_bind_iff, reads_within_iff, reads_pure_iff] at read
      obtain ⟨_, _, ⟨inside, place, rfl, _⟩, _, rfl⟩ := read
      exact ⟨_, rfl, .restricted span inside place headed⟩
    · obtain ⟨_, rfl⟩ := (reads_pure_iff ..).mp read
      exact ⟨_, rfl, .qualified "pub" span (by decide) headed⟩
  · obtain ⟨_, rfl⟩ := (reads_pure_iff ..).mp read
    exact ⟨head, rfl, headed⟩

end

theorem startsFunction_of_signature (grammar : Grammar) (tokens rest : Tokens) (made : Signature)
    (read : (signature grammar false).Reads tokens made rest) :
    StartsFunction made.name tokens rest := by
  simp only [signature, name, reads_bind_iff, reads_check_iff, reads_word_iff, reads_anyWord_iff,
    reads_pure_iff] at read
  obtain ⟨isSafe, between, qualified, _, behind, ⟨span, rfl⟩, found, after, ⟨_, _, ⟨_, rfl⟩, place,
    rfl⟩, _, _, parameters, _, _, inputs, _, _, output, _, _, predicates, rfl, rfl⟩ := read
  refine startsFunction_of_qualifiers found _ _ _ isSafe qualified ?_
  obtain ⟨more, rfl⟩ := ((predicates.suffix.trans output.suffix).trans inputs.suffix).trans
    parameters.suffix
  exact ⟨_, rfl, .named span place more⟩

/-- A function is its head, and a body in braces behind it. -/
theorem startsFunction_of_functionItem (grammar : Grammar) (shown : Tree) (tokens rest : Tokens)
    (body : ItemBody) (name : String) (read : (functionItem grammar shown).Reads tokens body rest)
    (declared : body.declared = .function name) :
    ∃ inner span, StartsFunction name tokens (.group .brace inner span :: rest) := by
  simp only [functionItem, reads_bind_iff] at read
  obtain ⟨found, between, headed, ended, behind, semicolon, read⟩ := read
  split at read
  · obtain ⟨rfl, _⟩ := (reads_pure_iff ..).mp read
    cases declared
  · simp only [Source.body, reads_bind_iff, reads_within_iff, reads_pure_iff] at read
    obtain ⟨⟨attributes, statements⟩, _, ⟨inner, span, rfl, _⟩, rfl, rfl⟩ := read
    obtain rfl : found.name = name := Declared.function.inj declared
    -- No semicolon has been taken, so the body stands directly behind the head.
    simp only [optionalMarks, reads_bind_iff, reads_test_iff] at semicolon
    obtain ⟨seen, _, ⟨rfl, rfl⟩, taken⟩ := semicolon
    split at taken
    · simp only [reads_bind_iff, reads_pure_iff] at taken
      obtain ⟨_, _, _, rfl, _⟩ := taken
      contradiction
    · obtain ⟨_, rfl⟩ := (reads_pure_iff ..).mp taken
      exact ⟨inner, span, startsFunction_of_signature grammar _ _ found headed⟩

/-! Functions -/

/-- The tokens of a function: documentation, then attributes of which the first is none, then
the head and the body. -/
structure FunctionTokens (grammar : Grammar) (name : String) (docs attributes head : Tokens)
    (inner : Tokens) (span : Span) (rest : Tokens) : Prop where
  documented : ∃ found, InTurn (outerAttribute grammar)
    (docs ++ (attributes ++ (head ++ .group .brace inner span :: rest))) found
    (attributes ++ (head ++ .group .brace inner span :: rest)) ∧ ∀ doc ∈ found, doc.isDoc = true
  attributed : ∃ found, InTurn (outerAttribute grammar)
    (attributes ++ (head ++ .group .brace inner span :: rest)) found
    (head ++ .group .brace inner span :: rest) ∧ ∀ first ∈ found.head?, first.isDoc = false
  headed : FunctionHead name head

theorem start_of_inTurn (grammar : Grammar) (attributes : List Attribute) (tokens before : Tokens)
    (read : InTurn (outerAttribute grammar) tokens attributes before) :
    (attributes.head?.map Attribute.start).getD (startOf before) = startOf tokens := by
  cases read with
  | none => rfl
  | next taken others => exact (start_outerAttribute grammar _ _ _ taken).1

/-- An item that is a function stands from the first of its attributes that is no documentation,
or from its head, up to the end of its body. -/
theorem functionTokens_of_reads (grammar : Grammar) (tokens rest : Tokens) (made : Item)
    (name : String) (read : (item grammar).Reads tokens made rest)
    (declared : made.declared = .function name) :
    ∃ docs attributes head inner span,
      tokens = docs ++ (attributes ++ (head ++ .group .brace inner span :: rest)) ∧
      FunctionTokens grammar name docs attributes head inner span rest ∧
      made.span = ⟨startOf (attributes ++ (head ++ .group .brace inner span :: rest)), span.stop⟩ := by
  obtain ⟨found, before, body, inTurn, _, taken, same, place⟩ :=
    reads_item grammar tokens rest made read
  rw [same] at declared
  obtain ⟨shown, between, visible, function⟩ :=
    functionItem_of_itemBody grammar before rest body name taken declared
  obtain ⟨inner, span, starts⟩ :=
    startsFunction_of_functionItem grammar shown between rest body name function declared
  obtain ⟨head, rfl, headed⟩ := startsFunction_of_visibility name before between _ shown visible starts
  -- The attributes are divided where the documentation in front of them ends.
  rw [← List.takeWhile_append_dropWhile (p := Attribute.isDoc) (l := found)] at inTurn
  obtain ⟨behind, documented, attributed⟩ := inTurn.split _ _
  obtain ⟨attributes, rfl⟩ := attributed.suffix
  obtain ⟨docs, rfl⟩ := documented.suffix
  refine ⟨docs, attributes, head, inner, span, rfl, ⟨⟨_, documented, ?_⟩, ⟨_, attributed, ?_⟩, headed⟩, ?_⟩
  · exact fun doc member => List.mem_takeWhile_imp member
  · intro first member
    have ended := List.head?_dropWhile_not Attribute.isDoc found
    rwa [Option.mem_def.mp member] at ended
  · have stop : lastStop (head ++ .group .brace inner span :: rest) rest = span.stop := by
      rw [show head ++ .group .brace inner span :: rest = (head ++ [.group .brace inner span]) ++ rest
        by simp, lastStop_append _ rest (.group .brace inner span) (by simp), Token.span]
    have start := start_of_inTurn grammar _ _ _ attributed
    simp only [place, List.find?_eq_head?_dropWhile_not, Bool.not_not, start, stop]

end HttpBinding.Source
