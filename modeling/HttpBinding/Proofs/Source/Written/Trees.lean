import HttpBinding.Proofs.Source.Reading
import HttpBinding.Source.Grammar

/-!
Where the parts of a tree are written. Every attribute and every macro call of a tree stands
among the tokens that it was read from: its name comes first, and the arguments of a call are
all that is in the brackets behind its exclamation mark. A reader is faithful to a text if this
holds of whatever it makes of tokens of that text; each way to put readers together keeps it.
-/
namespace HttpBinding.Source

/-! Places -/

/-- Tokens that stand in a row in others, or in what is in brackets there. -/
inductive Inside : Tokens → Tokens → Prop where
  | here {text part : Tokens} (row : part <:+: text) : Inside text part
  | deeper {text inner part : Tokens} {delimiter : Delimiter} {span : Span}
      (member : .group delimiter inner span ∈ text) (inside : Inside inner part) :
      Inside text part

theorem Inside.refl (text : Tokens) : Inside text text := .here (List.infix_refl text)

theorem Inside.of_infix {text part few : Tokens} (inside : Inside text part)
    (row : few <:+: part) : Inside text few := by
  induction inside with
  | here whole => exact .here (row.trans whole)
  | deeper member _ ih => exact .deeper member (ih row)

theorem Inside.inner {text part inner : Tokens} {delimiter : Delimiter} {span : Span}
    (inside : Inside text part) (member : .group delimiter inner span ∈ part) :
    Inside text inner := by
  induction inside with
  | here row => exact .deeper (row.subset member) (.refl inner)
  | deeper outer _ ih => exact .deeper outer (ih member)

/-! Spellings -/

/-- Names with `::` in between. -/
inductive Spelled : List String → Tokens → Prop where
  | last (name : String) (span : Span) : Spelled [name] [.word name span]
  | next (name : String) (span first second : Span) (joint : Bool) {names : List String}
      {tokens : Tokens} (others : Spelled names tokens) :
      Spelled (name :: names)
        (.word name span :: .mark ':' true first :: .mark ':' joint second :: tokens)

/-- A path without arguments. -/
inductive WrittenPath : Tree → Tokens → Prop where
  | relative {names : List String} {tokens : Tokens} (spelled : Spelled names tokens) :
      WrittenPath (.path false names .none []) tokens
  | rooted (first second : Span) (joint : Bool) {names : List String} {tokens : Tokens}
      (spelled : Spelled names tokens) :
      WrittenPath (.path true names .none [])
        (.mark ':' true first :: .mark ':' joint second :: tokens)

/-- A macro call: its name, an exclamation mark, perhaps a name that it defines, and its
arguments in brackets. -/
inductive WrittenCall (name : Tree) (arguments : Tokens) : Tokens → Prop where
  | plain (joint : Bool) (mark place : Span) (delimiter : Delimiter) {path : Tokens}
      (named : WrittenPath name path) :
      WrittenCall name arguments
        (path ++ [.mark '!' joint mark, .group delimiter arguments place])
  | defining (joint : Bool) (mark between place : Span) (defined : String)
      (delimiter : Delimiter) {path : Tokens} (named : WrittenPath name path) :
      WrittenCall name arguments
        (path ++ [.mark '!' joint mark, .word defined between, .group delimiter arguments place])

/-- An attribute: its name comes first in the brackets behind `#` or `#!`. -/
inductive WrittenAttribute (name : Tree) : Tokens → Prop where
  | outer (joint : Bool) (mark place : Span) {path value : Tokens}
      (named : WrittenPath name path) :
      WrittenAttribute name [.mark '#' joint mark, .group .bracket (path ++ value) place]
  | inner (joint also : Bool) (mark other place : Span) {path value : Tokens}
      (named : WrittenPath name path) :
      WrittenAttribute name
        [.mark '#' joint mark, .mark '!' also other, .group .bracket (path ++ value) place]

/-- A tree as it is read: its attributes and macro calls are written in the text, and no call
has been followed. -/
inductive Tree.WrittenIn (text : Tokens) : Tree → Prop where
  | path (rooted : Bool) (names : List String) (style : Arguments) (arguments : List Tree)
      (each : ∀ tree ∈ arguments, WrittenIn text tree) :
      WrittenIn text (.path rooted names style arguments)
  | node (kind : Kind) (children : List Tree) (each : ∀ tree ∈ children, WrittenIn text tree) :
      WrittenIn text (.node kind children)
  | metadata (name : Tree) (value : List Tree) (written : Tokens) (inside : Inside text written)
      (leads : WrittenAttribute name written) (each : ∀ tree ∈ value, WrittenIn text tree) :
      WrittenIn text (.metadata name value)
  | call (name : Tree) (arguments written : Tokens) (inside : Inside text written)
      (stands : WrittenCall name arguments written) : WrittenIn text (.call name arguments [])

/-! Values that hold trees -/

class Holds (α : Type) where
  trees : α → List Tree

instance (priority := low) holdsNothing (α : Type) : Holds α := ⟨fun _ => []⟩

instance holdsTree : Holds Tree := ⟨fun tree => [tree]⟩

instance holdsList (α : Type) [Holds α] : Holds (List α) := ⟨List.flatMap Holds.trees⟩

instance holdsOption (α : Type) [Holds α] : Holds (Option α) :=
  ⟨fun found => found.toList.flatMap Holds.trees⟩

instance holdsPair (α β : Type) [Holds α] [Holds β] : Holds (α × β) :=
  ⟨fun pair => Holds.trees pair.1 ++ Holds.trees pair.2⟩

instance holdsSum (α β : Type) [Holds α] [Holds β] : Holds (α ⊕ β) :=
  ⟨Sum.elim Holds.trees Holds.trees⟩

instance holdsAttribute : Holds Attribute := ⟨fun found => [found.tree]⟩

instance holdsSegment : Holds Segment := ⟨Segment.arguments⟩

instance holdsPathRead : Holds PathRead := ⟨fun path => path.segments.flatMap Segment.arguments⟩

instance holdsSignature : Holds Signature := ⟨fun found => [found.tree]⟩

instance holdsConstantRead : Holds ConstantRead :=
  ⟨fun found => found.type :: found.value.toList⟩

instance holdsAliasRead : Holds AliasRead :=
  ⟨fun found => found.generics :: (found.bounds ++ found.type.toList)⟩

instance holdsItemBody : Holds ItemBody :=
  ⟨fun | .unread => [] | .read _ children => children⟩

instance holdsItem : Holds Item := ⟨fun found => [found.tree]⟩

/-- A goal that continues an expression holds what stands in front. -/
instance holdsGoal : Holds Goal := ⟨fun | .operators left _ _ => [left] | _ => []⟩

/-- All trees that a value holds are written in the text. -/
class Stands {α : Type} [Holds α] (text : Tokens) (value : α) : Prop where
  written : ∀ tree ∈ Holds.trees value, tree.WrittenIn text

structure Standing (α : Type) [Holds α] (text : Tokens) where
  value : α
  stands : Stands text value

/-- A type of values without trees. -/
class Treeless (α : Type) [Holds α] : Prop where
  none : ∀ value : α, Holds.trees value = []

section Values
variable {α β : Type} [Holds α] [Holds β] (text : Tokens)

instance treeless_nothing (γ : Type) : @Treeless γ (holdsNothing γ) :=
  @Treeless.mk γ (holdsNothing γ) fun _ => rfl

instance treeless_list [Treeless α] : Treeless (List α) where
  none _ := List.flatMap_eq_nil_iff.mpr fun value _ => Treeless.none value

instance treeless_option [Treeless α] : Treeless (Option α) where
  none _ := List.flatMap_eq_nil_iff.mpr fun value _ => Treeless.none value

instance stands_value (found : Standing α text) : Stands text found.value := found.stands

instance (priority := low) stands_treeless [Treeless α] (value : α) : Stands text value where
  written tree member := by simp [Treeless.none value] at member

theorem Stands.of_subset {text : Tokens} {value : α} {other : β} (stands : Stands text value)
    (fewer : Holds.trees other ⊆ Holds.trees value) : Stands text other where
  written tree member := stands.written tree (fewer member)

theorem stands_tree_iff (tree : Tree) : Stands text tree ↔ tree.WrittenIn text := by
  constructor
  · exact fun stands => stands.written tree (List.mem_singleton_self tree)
  · intro written
    refine ⟨fun other member => ?_⟩
    obtain rfl := List.mem_singleton.mp member
    exact written

theorem stands_trees_iff (trees : List Tree) :
    Stands text trees ↔ ∀ tree ∈ trees, tree.WrittenIn text := by
  constructor
  · exact fun stands tree member => stands.written tree (by simpa [Holds.trees] using member)
  · exact fun written => ⟨fun tree member => written tree (by simpa [Holds.trees] using member)⟩

/-! Lists and alternatives -/

instance stands_nil : Stands text ([] : List α) where
  written tree member := by cases member

instance stands_cons (first : α) (rest : List α) [one : Stands text first]
    [others : Stands text rest] : Stands text (first :: rest) where
  written tree member := by
    rcases List.mem_append.mp member with here | later
    · exact one.written tree here
    · exact others.written tree later

instance stands_append (first second : List α) [one : Stands text first]
    [other : Stands text second] : Stands text (first ++ second) where
  written tree member := by
    simp only [Holds.trees, List.flatMap_append, List.mem_append] at member
    rcases member with left | right
    · exact one.written tree left
    · exact other.written tree right

instance stands_reverse (values : List α) [stands : Stands text values] :
    Stands text values.reverse :=
  stands.of_subset fun tree member => by simpa [Holds.trees] using member

instance stands_flatten (values : List (List α)) [stands : Stands text values] :
    Stands text values.flatten :=
  stands.of_subset fun tree member => by
    simp only [Holds.trees, List.mem_flatMap, List.mem_flatten] at member ⊢
    obtain ⟨value, ⟨group, among, inside⟩, here⟩ := member
    exact ⟨group, among, value, inside, here⟩

instance stands_some (value : α) [stands : Stands text value] : Stands text (some value) :=
  stands.of_subset (by simp [Holds.trees])

instance stands_none : Stands text (none : Option α) where
  written tree member := by cases member

theorem Stands.of_some {text : Tokens} {value : α} (stands : Stands text (some value)) :
    Stands text value :=
  stands.of_subset (by simp [Holds.trees])

theorem Stands.of_eq_some {text : Tokens} {found : Option α} {value : α}
    (stands : Stands text found) (same : found = some value) : Stands text value := by
  rw [same] at stands
  exact stands.of_some

instance stands_toList (found : Option α) [stands : Stands text found] :
    Stands text found.toList := ⟨stands.written⟩

instance stands_getD (found : Option α) (fallback : α) [stands : Stands text found]
    [other : Stands text fallback] : Stands text (found.getD fallback) := by
  cases found with
  | none => exact other
  | some value => exact stands.of_some

instance stands_or (first second : Option α) [one : Stands text first]
    [other : Stands text second] : Stands text (first.or second) := by
  cases first with
  | none => exact other
  | some value => exact one

instance stands_pair (first : α) (second : β) [one : Stands text first]
    [other : Stands text second] : Stands text (first, second) where
  written tree member := by
    rcases List.mem_append.mp member with left | right
    · exact one.written tree left
    · exact other.written tree right

instance stands_fst (pair : α × β) [stands : Stands text pair] : Stands text pair.1 :=
  stands.of_subset (List.subset_append_left ..)

instance stands_snd (pair : α × β) [stands : Stands text pair] : Stands text pair.2 :=
  stands.of_subset (List.subset_append_right ..)

instance stands_inl (value : α) [stands : Stands text value] :
    Stands text (Sum.inl value : α ⊕ β) := ⟨stands.written⟩

instance stands_inr (value : β) [stands : Stands text value] :
    Stands text (Sum.inr value : α ⊕ β) := ⟨stands.written⟩

theorem Stands.of_inl {text : Tokens} {value : α}
    (stands : Stands text (Sum.inl value : α ⊕ β)) : Stands text value := ⟨stands.written⟩

theorem Stands.of_inr {text : Tokens} {value : β}
    (stands : Stands text (Sum.inr value : α ⊕ β)) : Stands text value := ⟨stands.written⟩

instance stands_ite (condition : Prop) [Decidable condition] (first second : α)
    [Stands text first] [Stands text second] :
    Stands text (if condition then first else second) := by
  split <;> infer_instance

/-! Trees -/

instance stands_path (rooted : Bool) (names : List String) (style : Arguments)
    (arguments : List Tree) [stands : Stands text arguments] :
    Stands text (Tree.path rooted names style arguments) :=
  (stands_tree_iff text _).mpr (.path _ _ _ _ ((stands_trees_iff text _).mp stands))

instance stands_node (kind : Kind) (children : List Tree) [stands : Stands text children] :
    Stands text (Tree.node kind children) :=
  (stands_tree_iff text _).mpr (.node _ _ ((stands_trees_iff text _).mp stands))

theorem Stands.children {text : Tokens} {kind : Kind} {children : List Tree}
    (stands : Stands text (Tree.node kind children)) : Stands text children := by
  cases (stands_tree_iff text _).mp stands with
  | node _ _ each => exact (stands_trees_iff text _).mpr each

theorem Stands.arguments {text : Tokens} {rooted : Bool} {names : List String}
    {style : Arguments} {arguments : List Tree}
    (stands : Stands text (Tree.path rooted names style arguments)) : Stands text arguments := by
  cases (stands_tree_iff text _).mp stands with
  | path _ _ _ _ each => exact (stands_trees_iff text _).mpr each

instance stands_parts (trees : List Tree) [Stands text trees] : Stands text (Tree.parts trees) := by
  unfold Tree.parts
  infer_instance

instance stands_nothing : Stands text Tree.nothing := by
  unfold Tree.nothing
  infer_instance

instance stands_withAttributes (attributes : List Tree) (tree : Tree)
    [Stands text attributes] [stands : Stands text tree] :
    Stands text (withAttributes attributes tree) := by
  unfold withAttributes
  split
  · exact stands
  · have := stands.children
    infer_instance
  · infer_instance

instance stands_replaceAttributes (attributes : List Tree) (tree : Tree)
    [Stands text attributes] [stands : Stands text tree] :
    Stands text (replaceAttributes attributes tree) := by
  unfold replaceAttributes
  split
  · exact stands
  · rename_i children
    have : Stands text children.getLast?.toList := stands.children.of_subset fun tree member => by
      simp only [Holds.trees, List.mem_flatMap, Option.mem_toList] at member ⊢
      obtain ⟨child, last, here⟩ := member
      exact ⟨child, List.mem_of_getLast? last, here⟩
    infer_instance
  · infer_instance

instance stands_genericsTree (parameters predicates : Option (List Tree))
    [Stands text parameters] [Stands text predicates] :
    Stands text (genericsTree parameters predicates) := by
  unfold genericsTree
  infer_instance

instance stands_operand (children : List Tree) [Stands text children] :
    Stands text (operand children) := by
  unfold operand shaped
  infer_instance

instance stands_shaped (shape : ExpressionShape) (children : List Tree) [Stands text children] :
    Stands text (shaped shape children) := by
  unfold shaped
  infer_instance

instance stands_blockExpression (children : List Tree) [Stands text children] :
    Stands text (blockExpression children) := by
  unfold blockExpression
  infer_instance

instance stands_plainType (children : List Tree) [Stands text children] :
    Stands text (plainType children) := by
  unfold plainType
  infer_instance

instance stands_plainPattern (children : List Tree) [Stands text children] :
    Stands text (plainPattern children) := by
  unfold plainPattern
  infer_instance

/-! What is read of paths, attributes and items -/

instance stands_attributeTrees (attributes : List Attribute) [stands : Stands text attributes] :
    Stands text (attributes.map Attribute.tree) :=
  stands.of_subset (by simp [Holds.trees, List.flatMap_map])

instance stands_segment (name : String) (style : Arguments) (arguments : List Tree)
    [stands : Stands text arguments] : Stands text (Segment.mk name style arguments) :=
  stands.of_subset (by simp [Holds.trees])

instance stands_pathRead (rooted : Bool) (segments : List Segment)
    [stands : Stands text segments] : Stands text (PathRead.mk rooted segments) := ⟨stands.written⟩

instance stands_segments (path : PathRead) [stands : Stands text path] :
    Stands text path.segments := ⟨stands.written⟩

instance stands_toTree (path : PathRead) [stands : Stands text path] :
    Stands text path.toTree := by
  have arguments : Stands text (path.segments.flatMap Segment.arguments) :=
    stands.of_subset (by simp [Holds.trees])
  unfold PathRead.toTree
  infer_instance

instance stands_withParentheses (path : PathRead) (arguments : List Tree)
    [stands : Stands text path] [Stands text arguments] :
    Stands text (path.withParentheses arguments) := by
  unfold PathRead.withParentheses
  split
  · exact stands
  · have front : Stands text path.segments.dropLast := stands.of_subset fun tree member => by
      simp only [Holds.trees, List.mem_flatMap] at member ⊢
      obtain ⟨segment, among, here⟩ := member
      exact ⟨segment, List.dropLast_subset _ among, here⟩
    infer_instance

instance stands_signature (name : String) (isSafe : Bool) (tree : Tree)
    [stands : Stands text tree] : Stands text (Signature.mk name isSafe tree) := ⟨stands.written⟩

instance stands_signatureTree (found : Signature) [stands : Stands text found] :
    Stands text found.tree := ⟨stands.written⟩

instance stands_constantRead (isGeneric : Bool) (type : Tree) (value : Option Tree)
    [one : Stands text type] [other : Stands text value] :
    Stands text (ConstantRead.mk isGeneric type value) :=
  (stands_cons text type value.toList).of_subset (by simp [Holds.trees])

instance stands_constantType (found : ConstantRead) [stands : Stands text found] :
    Stands text found.type :=
  stands.of_subset (by simp [Holds.trees])

instance stands_constantValue (found : ConstantRead) [stands : Stands text found] :
    Stands text found.value :=
  stands.of_subset (by simp [Holds.trees])

instance stands_aliasRead (isBounded : Bool) (generics : Tree) (bounds : List Tree)
    (type : Option Tree) [Stands text generics] [Stands text bounds] [Stands text type] :
    Stands text (AliasRead.mk isBounded generics bounds type) :=
  (stands_cons text generics (bounds ++ type.toList)).of_subset (by simp [Holds.trees])

instance stands_aliasGenerics (found : AliasRead) [stands : Stands text found] :
    Stands text found.generics :=
  stands.of_subset (by simp [Holds.trees])

instance stands_aliasBounds (found : AliasRead) [stands : Stands text found] :
    Stands text found.bounds :=
  stands.of_subset (by simp [Holds.trees])

instance stands_aliasType (found : AliasRead) [stands : Stands text found] :
    Stands text found.type :=
  stands.of_subset (by simp [Holds.trees])

instance stands_unread : Stands text ItemBody.unread where
  written tree member := by cases member

instance stands_read (declared : Declared) (children : List Tree)
    [stands : Stands text children] : Stands text (ItemBody.read declared children) :=
  stands.of_subset (by simp [Holds.trees])

instance stands_member (children : List Tree) [stands : Stands text children] :
    Stands text (ItemBody.member children) :=
  stands_read text .other children

instance stands_bodyTree (attributes : List Tree) (body : ItemBody) [Stands text attributes]
    [stands : Stands text body] : Stands text (body.toTree attributes) := by
  cases body with
  | unread => exact stands_node text .item []
  | read declared children =>
      have : Stands text children := stands.of_subset (by simp [Holds.trees])
      exact stands_node text .item (attributes ++ children)

instance stands_item (declared : Declared) (span : Span) (tree : Tree)
    [stands : Stands text tree] : Stands text (Item.mk declared span tree) := ⟨stands.written⟩

instance stands_itemTree (found : Item) [stands : Stands text found] : Stands text found.tree :=
  ⟨stands.written⟩

end Values

/-! Readers -/

namespace Reader

-- The search goes through a reader from its first step to its last.
set_option synthInstance.maxSize 2000

/-- Whatever the reader makes of tokens of the text is written in the text. -/
class Faithful {α : Type} [Holds α] (text : Tokens) (reader : Reader α) : Prop where
  faithful : ∀ taken rest value, Inside text taken →
    reader.Reads (taken ++ rest) value rest → Stands text value

section Combinators
variable {α β : Type} [Holds α] [Holds β] (text : Tokens)

instance (priority := low) faithful_treeless [Treeless α] (reader : Reader α) :
    Faithful text reader where
  faithful _ _ value _ _ := stands_treeless text value

instance faithful_pure (value : α) [stands : Stands text value] :
    Faithful text (pure value : Reader α) where
  faithful _ _ _ _ read := by
    obtain ⟨rfl, _⟩ := (reads_pure_iff ..).mp read
    exact stands

instance faithful_failure : Faithful text (failure : Reader α) where
  faithful _ _ _ _ read := (not_reads_failure _ _ _ read).elim

omit [Holds α] [Holds β] in
theorem reads_bind_taken (first : Reader α) (next : α → Reader β) (taken rest : Tokens)
    (value : β) (read : (first >>= next).Reads (taken ++ rest) value rest) :
    ∃ found earlier later, taken = earlier ++ later ∧
      first.Reads (earlier ++ (later ++ rest)) found (later ++ rest) ∧
      (next found).Reads (later ++ rest) value rest := by
  obtain ⟨found, between, started, ended⟩ := (reads_bind_iff ..).mp read
  obtain ⟨earlier, whole⟩ := started.suffix
  obtain ⟨later, rfl⟩ := ended.suffix
  rw [← List.append_assoc] at whole
  obtain rfl := List.append_cancel_right whole
  exact ⟨found, earlier, later, rfl, by rwa [← List.append_assoc], ended⟩

instance faithful_bind (first : Reader α) (next : α → Reader β) [one : Faithful text first]
    [others : ∀ found : Standing α text, Faithful text (next found.value)] :
    Faithful text (first >>= next) where
  faithful taken rest value inside read := by
    obtain ⟨found, earlier, later, rfl, started, ended⟩ :=
      reads_bind_taken first next taken rest value read
    have stands := one.faithful earlier _ found
      (inside.of_infix (List.prefix_append ..).isInfix) started
    exact (others ⟨found, stands⟩).faithful later rest value
      (inside.of_infix (List.suffix_append ..).isInfix) ended

/-- For readers that go on in different ways, by what has been found. -/
theorem Faithful.bind {text : Tokens} {first : Reader α} {next : α → Reader β}
    (one : Faithful text first)
    (others : ∀ found, Stands text found → Faithful text (next found)) :
    Faithful text (first >>= next) :=
  @faithful_bind _ _ _ _ text first next one fun found => others found.value found.stands

instance faithful_ite (condition : Prop) [Decidable condition] (first second : Reader α)
    [Faithful text first] [Faithful text second] :
    Faithful text (if condition then first else second) := by
  split <;> infer_instance

theorem stands_of_reads (reader : Reader α) (tokens rest : Tokens) (value : α)
    [one : Faithful text reader] (inside : Inside text tokens)
    (read : reader.Reads tokens value rest) : Stands text value := by
  obtain ⟨taken, rfl⟩ := read.suffix
  exact one.faithful taken rest value (inside.of_infix (List.prefix_append ..).isInfix) read

theorem stands_of_whole (inner : Reader α) (tokens : Tokens) (value : α)
    [one : Faithful text inner] (inside : Inside text tokens)
    (read : whole inner tokens = some value) : Stands text value :=
  stands_of_reads text inner tokens [] value inside ((whole_eq_some_iff ..).mp read)

instance faithful_within (delimiter : Delimiter) (inner : Reader α) [one : Faithful text inner] :
    Faithful text (within delimiter inner) where
  faithful taken rest value inside read := by
    obtain ⟨tokens, span, whole, content⟩ := (reads_within_iff ..).mp read
    obtain rfl : taken = [.group delimiter tokens span] :=
      List.append_cancel_right (whole.trans rfl)
    exact stands_of_whole text inner tokens value (inside.inner List.mem_cons_self)
      ((whole_eq_some_iff ..).mpr content)

theorem faithful_iterate (step : β → Reader (β ⊕ α))
    (each : ∀ state : Standing β text, Faithful text (step state.value)) (fuel : Nat)
    (state : Standing β text) :
    Faithful text (iterate failure step fuel state.value : Reader α) := by
  induction fuel generalizing state with
  | zero => exact faithful_failure text
  | succ fuel ih =>
      unfold iterate
      refine .bind (each state) fun found stands => ?_
      cases found with
      | inl next => exact ih ⟨next, stands.of_inl⟩
      | inr value =>
          have := stands.of_inr
          exact faithful_pure text value

instance faithful_untilDone (step : β → Reader (β ⊕ α)) (state : β) [stands : Stands text state]
    [each : ∀ state : Standing β text, Faithful text (step state.value)] :
    Faithful text (untilDone step state) :=
  Faithful.bind inferInstance fun tokens _ =>
    faithful_iterate text step each (tokens.length + 1) ⟨state, stands⟩

instance faithful_many (holds : Tokens → Bool) (value : Reader α) [Faithful text value] :
    Faithful text (many holds value) := by
  unfold many
  infer_instance

instance faithful_commaList (value : Reader α) [Faithful text value] :
    Faithful text (commaList value) := by
  unfold commaList
  dsimp only
  infer_instance

instance faithful_separatedUntil (stop : Tokens → Bool) (separator : String) (value : Reader α)
    [Faithful text value] : Faithful text (separatedUntil stop separator value) := by
  unfold separatedUntil
  dsimp only
  infer_instance

instance faithful_plusList (stop : Tokens → Bool) (value : Reader α) [Faithful text value] :
    Faithful text (plusList stop value) := by
  unfold plusList
  dsimp only
  infer_instance

instance faithful_attempt (value : Reader α) [one : Faithful text value] :
    Faithful text (attempt value) where
  faithful taken rest found inside read := by
    obtain ⟨onward, read⟩ := read
    unfold attempt at read
    split at read
    · rename_i made left further started
      injection read with same
      injection same with same behind
      subst same behind
      have := one.faithful taken left made inside ⟨further, started⟩
      infer_instance
    · injection read with same
      injection same with same
      subst same
      infer_instance

/-- Whatever reader starts over from the same tokens is faithful. -/
class Restarts (text : Tokens) (first : Reader (α ⊕ Reader α)) : Prop where
  faithful : ∀ tokens again rest, first.Reads tokens (.inr again) rest → Faithful text again

instance restarts_failure : Restarts text (failure : Reader (α ⊕ Reader α)) where
  faithful _ _ _ read := (not_reads_failure _ _ _ read).elim

instance restarts_inl (value : α) : Restarts text (pure (.inl value)) where
  faithful _ _ _ read := by cases ((reads_pure_iff ..).mp read).1

instance restarts_inr (again : Reader α) [one : Faithful text again] :
    Restarts text (pure (.inr again)) where
  faithful _ _ _ read := by
    cases ((reads_pure_iff ..).mp read).1
    exact one

instance restarts_bind {γ : Type} (first : Reader γ) (next : γ → Reader (α ⊕ Reader α))
    [others : ∀ value, Restarts text (next value)] : Restarts text (first >>= next) where
  faithful _ again rest read := by
    obtain ⟨value, between, _, ended⟩ := (reads_bind_iff ..).mp read
    exact (others value).faithful between again rest ended

instance restarts_ite (condition : Prop) [Decidable condition]
    (first second : Reader (α ⊕ Reader α)) [Restarts text first] [Restarts text second] :
    Restarts text (if condition then first else second) := by
  split <;> infer_instance

instance faithful_restarting (first : Reader (α ⊕ Reader α)) [one : Faithful text first]
    [other : Restarts text first] : Faithful text (restarting first) where
  faithful taken rest value inside read := by
    obtain ⟨onward, read⟩ := read
    unfold restarting at read
    split at read
    · rename_i made left further started
      injection read with same
      injection same with same behind
      subst same behind
      exact (one.faithful taken left (.inl made) inside ⟨further, started⟩).of_inl
    · rename_i again left further started
      have := other.faithful _ again left ⟨further, started⟩
      exact this.faithful taken rest value inside ⟨onward, read⟩
    · cases read

end Combinators

/-! Goals -/

/-- A grammar that is faithful at every goal. -/
class FaithfulGrammar (text : Tokens) (grammar : Grammar) : Prop where
  faithful : ∀ goal, Stands text goal → Faithful text (grammar goal)

section Goals
variable (text : Tokens)

instance faithful_goal (grammar : Grammar) (goal : Goal) [all : FaithfulGrammar text grammar]
    [stands : Stands text goal] : Faithful text (grammar goal) :=
  all.faithful goal stands

theorem stands_goal (goal : Goal) (alone : Holds.trees goal = []) : Stands text goal where
  written tree member := by simp [alone] at member

instance stands_expressionGoal (structs : Bool) : Stands text (Goal.expression structs) :=
  stands_goal text _ rfl

instance stands_bareExpressionGoal : Stands text Goal.bareExpression := stands_goal text _ rfl

instance stands_unaryGoal (structs : Bool) : Stands text (Goal.unary structs) :=
  stands_goal text _ rfl

instance stands_operatorsGoal (left : Tree) (structs : Bool) (base : Precedence)
    [stands : Stands text left] : Stands text (Goal.operators left structs base) :=
  ⟨stands.written⟩

instance stands_expressionsGoal : Stands text Goal.expressions := stands_goal text _ rfl

instance stands_typeGoal (plus : Bool) : Stands text (Goal.type plus) := stands_goal text _ rfl

instance stands_boundGoal (capture const : Bool) : Stands text (Goal.bound capture const) :=
  stands_goal text _ rfl

instance stands_patternGoal : Stands text Goal.pattern := stands_goal text _ rfl

instance stands_alternativesGoal : Stands text Goal.alternatives := stands_goal text _ rfl

instance stands_statementsGoal : Stands text Goal.statements := stands_goal text _ rfl

instance stands_fieldsGoal : Stands text Goal.fields := stands_goal text _ rfl

instance stands_itemGoal : Stands text Goal.item := stands_goal text _ rfl

instance stands_traitItemGoal : Stands text Goal.traitItem := stands_goal text _ rfl

instance stands_implItemGoal : Stands text Goal.implItem := stands_goal text _ rfl

instance stands_foreignItemGoal : Stands text Goal.foreignItem := stands_goal text _ rfl

end Goals

end Reader
end HttpBinding.Source
