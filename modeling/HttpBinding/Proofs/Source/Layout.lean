import HttpBinding.Source.Outline
import HttpBinding.Proofs.Source.Written.Walk

/-!
Where items stand among the tokens of a file. Every item takes tokens; its own ones run on
from its first attribute that is no documentation, or from the item itself, to where it ends,
and the next item follows. So the items of a file lie apart and in order.
-/
namespace HttpBinding.Source
namespace Reader

variable {α β : Type}

/-- A reader that succeeds only if it takes a token. -/
class Consumes (reader : Reader α) : Prop where
  consumes : ∀ tokens value rest, reader.Reads tokens value rest → rest ≠ tokens

instance consumes_failure : Consumes (failure : Reader α) where
  consumes tokens value rest read := (not_reads_failure value tokens rest read).elim

instance consumes_next : Consumes next where
  consumes tokens token rest read same := by
    have longer := congrArg List.length (same.trans ((reads_next_iff ..).mp read))
    simp at longer

-- No reader goes back, so what one of two readers takes stays taken.
instance consumes_bind_of_first (first : Reader α) (next : α → Reader β)
    [started : Consumes first] : Consumes (first >>= next) where
  consumes tokens value rest read same := by
    obtain ⟨made, between, taken, ended⟩ := (reads_bind_iff ..).mp read
    have whole : tokens <:+ between := same ▸ ended.suffix
    exact started.consumes _ _ _ taken
      (taken.suffix.eq_of_length_le whole.length_le)

instance consumes_bind_of_next (first : Reader α) (next : α → Reader β)
    [ended : ∀ value, Consumes (next value)] : Consumes (first >>= next) where
  consumes tokens value rest read same := by
    obtain ⟨made, between, taken, left⟩ := (reads_bind_iff ..).mp read
    have whole : between <:+ rest := same ▸ taken.suffix
    exact (ended made).consumes _ _ _ left (left.suffix.eq_of_length_le whole.length_le)

instance consumes_ite (condition : Prop) [Decidable condition] (first second : Reader α)
    [Consumes first] [Consumes second] : Consumes (if condition then first else second) := by
  split <;> infer_instance

instance consumes_word (text : String) : Consumes (word text) where
  consumes tokens value rest read same := by
    simp only [word, reads_bind_iff, reads_check_iff, reads_drop_iff] at read
    obtain ⟨_, _, ⟨seen, rfl⟩, rfl⟩ := read
    cases tokens with
    | nil => cases seen
    | cons token rest => simp at same

instance consumes_marks (text : String) : Consumes (marks text) where
  consumes tokens value rest read same := by
    simp only [marks, reads_bind_iff, reads_check_iff, reads_drop_iff] at read
    obtain ⟨_, _, ⟨seen, rfl⟩, rfl⟩ := read
    cases marks : text.toList with
    | nil => simp [Tokens.sees, marks, Tokens.seesMarks] at seen
    | cons c more =>
        have size : text.length = more.length + 1 := by
          rw [← String.length_toList, marks, List.length_cons]
        cases tokens with
        | nil => simp [Tokens.sees, marks, Tokens.seesMarks] at seen
        | cons token rest =>
            have longer := congrArg List.length same
            rw [size, List.drop_succ_cons, List.length_drop, List.length_cons] at longer
            omega

instance consumes_within (delimiter : Delimiter) (inner : Reader α) :
    Consumes (within delimiter inner) := by
  unfold within
  infer_instance

end Reader

open Reader

variable (grammar : Grammar)

instance consumes_signature (allowSafe : Bool) : Consumes (signature grammar allowSafe) := by
  unfold signature
  infer_instance

instance consumes_functionItem (shown : Tree) : Consumes (functionItem grammar shown) := by
  unfold functionItem
  infer_instance

instance consumes_foreignBlock : Consumes (foreignBlock grammar) := by
  unfold foreignBlock members
  infer_instance

instance consumes_externItem (shown : Tree) : Consumes (externItem grammar shown) := by
  unfold externItem externCrate
  infer_instance

instance consumes_useItem (shown : Tree) : Consumes (useItem shown) := by
  unfold useItem
  infer_instance

instance consumes_staticItem (shown : Tree) : Consumes (staticItem grammar shown) := by
  unfold staticItem
  infer_instance

instance consumes_constantItem (shown : Tree) : Consumes (constantItem grammar shown) := by
  unfold constantItem
  infer_instance

instance consumes_moduleItem (shown : Tree) : Consumes (moduleItem grammar shown) := by
  unfold moduleItem
  infer_instance

instance consumes_typeItem (shown : Tree) : Consumes (typeItem grammar shown) := by
  unfold typeItem typeAlias
  infer_instance

instance consumes_structureItem (shown : Tree) : Consumes (structureItem grammar shown) := by
  unfold structureItem
  infer_instance

instance consumes_enumItem (shown : Tree) : Consumes (enumItem grammar shown) := by
  unfold enumItem
  infer_instance

instance consumes_unionItem (shown : Tree) : Consumes (unionItem grammar shown) := by
  unfold unionItem
  infer_instance

instance consumes_traitItem (shown : Tree) : Consumes (traitItem grammar shown) := by
  unfold traitItem
  infer_instance

instance consumes_implItem (shown : Tree) : Consumes (implItem grammar shown) := by
  unfold implItem
  infer_instance

instance consumes_macroItem : Consumes (macroItem) := by
  unfold macroItem
  infer_instance

instance consumes_callItem : Consumes callItem := by
  unfold callItem
  infer_instance

instance consumes_unsafeItem (shown : Tree) : Consumes (unsafeItem grammar shown) := by
  unfold unsafeItem
  infer_instance

instance consumes_itemBody : Consumes (itemBody grammar) := by
  unfold itemBody
  infer_instance

/-! Documentation -/

theorem start_outerAttribute (tokens rest : Tokens) (found : Attribute)
    (read : (outerAttribute grammar).Reads tokens found rest) :
    found.start = startOf tokens ∧ Tokens.sees "#" tokens = true := by
  simp only [outerAttribute, marks, reads_bind_iff, reads_ahead_iff, reads_check_iff,
    reads_pure_iff] at read
  obtain ⟨_, _, ⟨rfl, rfl⟩, _, _, ⟨_, _, ⟨seen, rfl⟩, _⟩, _, _, _, rfl, _⟩ := read
  exact ⟨rfl, seen⟩

/-- All documentation that stands in front, up to where the rest starts. -/
structure Documentation (tokens rest : Tokens) : Prop where
  read : ∃ docs, InTurn (outerAttribute grammar) tokens docs rest ∧
    ∀ found ∈ docs, found.isDoc = true
  ended : ∀ found after, (outerAttribute grammar).Reads rest found after → found.isDoc = false

theorem Documentation.suffix {tokens rest : Tokens}
    (documentation : Documentation grammar tokens rest) : rest <:+ tokens := by
  obtain ⟨_, read, _⟩ := documentation.read
  exact read.suffix

/-- Where the first attribute starts that is no documentation, or what all of them are about. -/
theorem documentation_of_inTurn (attributes : List Attribute) (tokens before : Tokens)
    (read : InTurn (outerAttribute grammar) tokens attributes before)
    (ended : Tokens.sees "#" before = false) :
    ∃ behind, Documentation grammar tokens behind ∧ before <:+ behind ∧
      ((attributes.find? (!·.isDoc)).map Attribute.start).getD (startOf before)
        = startOf behind := by
  induction read with
  | none tokens =>
      refine ⟨tokens, ⟨⟨[], .none _, by simp⟩, ?_⟩, List.suffix_refl _, rfl⟩
      intro found after read
      have seen := (start_outerAttribute grammar _ _ _ read).2
      rw [ended] at seen
      cases seen
  | @next tokens between before found others read inTurn ih =>
      cases doc : found.isDoc with
      | false =>
          refine ⟨tokens, ⟨⟨[], .none _, by simp⟩, ?_⟩, inTurn.suffix.trans read.suffix, ?_⟩
          · intro another after again
            rw [(read.unique again).1, doc]
          · simp [doc, (start_outerAttribute grammar _ _ _ read).1]
      | true =>
          obtain ⟨behind, ⟨⟨docs, front, all⟩, stopped⟩, inside, starts⟩ := ih ended
          refine ⟨behind, ⟨⟨found :: docs, .next read front, by simpa [doc] using all⟩, stopped⟩,
            inside, ?_⟩
          simpa [doc] using starts

/-! Items -/

/-- Where an item stands: behind its documentation, from its first own token to its last. Its
documentation is walked as well. -/
structure Item.StandsAt (item : Item) (docs own rest : Tokens) : Prop where
  read : (Source.item grammar).Reads (docs ++ own ++ rest) item rest
  documentation : Documentation grammar (docs ++ own ++ rest) (own ++ rest)
  span : ∃ first last, own.head? = some first ∧ own.getLast? = some last ∧
    item.span = ⟨first.span.start, last.span.stop⟩
  walked : ∃ asRead, item.Walked grammar (docs ++ own) rest asRead

/-- Items one behind the other, with nothing left. -/
inductive LaidOut : Tokens → List Item → Prop where
  | none : LaidOut [] []
  | next {docs own rest : Tokens} {item : Item} {items : List Item}
      (stands : item.StandsAt grammar docs own rest) (others : LaidOut rest items) :
      LaidOut (docs ++ own ++ rest) (item :: items)

theorem startOf_append (own rest : Tokens) (first : Token) (head : own.head? = some first) :
    startOf (own ++ rest) = first.span.start := by
  simp [startOf, List.head?_append, head]

theorem lastStop_append (own rest : Tokens) (last : Token) (final : own.getLast? = some last) :
    lastStop (own ++ rest) rest = last.span.stop := by
  obtain ⟨front, rfl⟩ := List.getLast?_eq_some_iff.mp final
  have index : (front ++ [last] ++ rest).length - rest.length - 1 = front.length := by
    simp only [List.length_append, List.length_singleton]
    omega
  rw [lastStop, index]
  simp

/-- An item is its attributes and what stands behind them. -/
theorem reads_item (tokens rest : Tokens) (made : Item)
    (read : (Source.item grammar).Reads tokens made rest) :
    ∃ attributes before body, InTurn (outerAttribute grammar) tokens attributes before ∧
      Tokens.sees "#" before = false ∧ (itemBody grammar).Reads before body rest ∧
      made.declared = body.declared ∧
      made.span = ⟨((attributes.find? (!·.isDoc)).map Attribute.start).getD (startOf before),
        lastStop before rest⟩ := by
  simp only [Source.item, itemAsRead, outerAttributes, reads_bind_iff, reads_ahead_iff,
    reads_pure_iff] at read
  obtain ⟨_, _, ⟨rfl, rfl⟩, _, _, ⟨attributes, before, leading, _, _, ⟨rfl, rfl⟩, body, _,
    taken, _, _, ⟨rfl, rfl⟩, rfl, rfl⟩, rfl, rfl⟩ := read
  obtain ⟨inTurn, ended⟩ := inTurn_of_many _ _ _ _ _ leading
  exact ⟨attributes, before, body, inTurn, ended, taken, rfl, rfl⟩

section
variable [faithful : ∀ text, FaithfulGrammar text grammar]
include faithful

theorem standsAt_of_reads (tokens rest : Tokens) (made : Item)
    (read : (Source.item grammar).Reads tokens made rest) :
    ∃ docs own, tokens = docs ++ own ++ rest ∧ made.StandsAt grammar docs own rest := by
  obtain ⟨attributes, before, body, inTurn, ended, taken, _, place⟩ :=
    reads_item grammar tokens rest made read
  obtain ⟨behind, documentation, ⟨marks, rfl⟩, starts⟩ :=
    documentation_of_inTurn grammar attributes tokens before inTurn ended
  obtain ⟨docs, rfl⟩ := documentation.suffix
  obtain ⟨words, rfl⟩ := taken.suffix
  -- The item itself takes tokens, so its last one is its own.
  have filled : words ≠ [] := by
    rintro rfl
    exact (consumes_itemBody grammar).consumes _ _ _ taken rfl
  have final := List.getLast?_eq_some_getLast filled
  have head := List.head?_eq_some_head (List.append_ne_nil_of_right_ne_nil marks filled)
  have ownFinal : (marks ++ words).getLast? = some (words.getLast filled) := by
    rw [List.getLast?_append, final, Option.some_or]
  simp only [← List.append_assoc] at starts read documentation
  have whole : (Source.item grammar).Reads (docs ++ (marks ++ words) ++ rest) made rest := by
    simpa using read
  refine ⟨docs, marks ++ words, by simp, whole, by simpa using documentation,
    ⟨_, _, head, ownFinal, ?_⟩, walked_of_reads grammar _ rest made whole⟩
  rw [place, starts, startOf_append _ rest _ head, lastStop_append words rest _ final]

theorem laidOut_of_inTurn (tokens rest : Tokens) (made : List Item)
    (read : InTurn (item grammar) tokens made rest) (ended : rest = []) :
    LaidOut grammar tokens made := by
  induction read with
  | none tokens =>
      subst ended
      exact .none
  | next read _ ih =>
      obtain ⟨docs, own, rfl, stands⟩ := standsAt_of_reads grammar _ _ _ read
      exact .next stands (ih ended)

end

/-- The items of a text, behind the attributes of the text itself. -/
def ItemsIn (text : List Char) (items : List Item) : Prop :=
  ∃ tokens trees behind, Lexer.tokens? (content text) = some tokens ∧
    (innerTrees (grammarFor (content text))).Reads tokens trees behind ∧
    LaidOut (grammarFor (content text)) behind items

theorem itemsIn_of_items? (text : List Char) (made : List Item) (parsed : items? text = some made) :
    ItemsIn text made := by
  obtain ⟨tokens, divided, read⟩ := Option.bind_eq_some_iff.mp parsed
  simp only [whole_eq_some_iff, items, reads_bind_iff] at read
  obtain ⟨trees, behind, leading, read⟩ := read
  exact ⟨tokens, trees, behind, divided, leading,
    laidOut_of_inTurn _ behind [] made (inTurn_of_many _ _ _ _ _ read).1 rfl⟩

end HttpBinding.Source
