import HttpBinding.Source.Lexer

/-!
Every reader of characters goes forward through the text: the place that it gives stands
behind the characters that it took, and the offset has grown by their number. So the offset
of a place is the number of characters in front of it, whatever was read on the way.
-/
namespace HttpBinding.Source

namespace Cursor

/-- One place stands behind another in the same text. -/
def Onward (before after : Cursor) : Prop :=
  ∃ taken, before.rest = taken ++ after.rest ∧ after.offset = before.offset + taken.length

@[refl]
theorem Onward.refl (cursor : Cursor) : cursor.Onward cursor := ⟨[], rfl, rfl⟩

theorem Onward.trans {first second third : Cursor} (start : first.Onward second)
    (further : second.Onward third) : first.Onward third := by
  obtain ⟨taken, rest, offset⟩ := start
  obtain ⟨more, left, count⟩ := further
  refine ⟨taken ++ more, by rw [rest, left, List.append_assoc], ?_⟩
  rw [count, offset, List.length_append, Nat.add_assoc]

theorem Onward.offset_le {before after : Cursor} (onward : before.Onward after) :
    before.offset ≤ after.offset := by
  obtain ⟨_, _, offset⟩ := onward
  exact offset ▸ Nat.le_add_right _ _

theorem onward_cons (offset : Nat) (c : Char) (rest : List Char) :
    Onward ⟨offset, c :: rest⟩ ⟨offset + 1, rest⟩ := ⟨[c], rfl, rfl⟩

theorem onward_advance (cursor : Cursor) (count : Nat) (inside : count ≤ cursor.rest.length) :
    cursor.Onward (cursor.advance count) := by
  refine ⟨cursor.rest.take count, (List.take_append_drop count cursor.rest).symm, ?_⟩
  rw [List.length_take_of_le inside, advance]

theorem onward_skipWhile (holds : Char → Bool) (cursor : Cursor) :
    cursor.Onward (cursor.skipWhile holds) :=
  onward_advance cursor _ (List.takeWhile_prefix holds).length_le

theorem onward_of_startsWith (cursor : Cursor) (word : String)
    (starts : cursor.startsWith word = true) : cursor.Onward (cursor.advance word.length) := by
  have inside := (List.isPrefixOf_iff_prefix.mp starts).length_le
  exact onward_advance cursor _ (by rwa [String.length_toList] at inside)

theorem next?_eq_some_iff (cursor after : Cursor) (c : Char) :
    cursor.next? = some (c, after) ↔ cursor = ⟨cursor.offset, c :: after.rest⟩ ∧
      after.offset = cursor.offset + 1 := by
  obtain ⟨offset, rest⟩ := cursor
  obtain ⟨place, left⟩ := after
  cases rest with
  | nil => simp [next?]
  | cons first more =>
      simp only [next?, Option.some.injEq, Prod.mk.injEq, mk.injEq, List.cons.injEq, true_and]
      constructor
      · rintro ⟨rfl, rfl, rfl⟩
        exact ⟨⟨rfl, rfl⟩, rfl⟩
      · rintro ⟨⟨rfl, rfl⟩, rfl⟩
        exact ⟨rfl, rfl, rfl⟩

theorem onward_of_next? (cursor after : Cursor) (c : Char)
    (next : cursor.next? = some (c, after)) : cursor.Onward after := by
  obtain ⟨shape, place⟩ := (next?_eq_some_iff ..).mp next
  exact ⟨[c], by rw [shape]; rfl, place⟩

end Cursor

open Cursor (Onward)

/-- A reader that only goes forward. -/
def Forward (reader : Cursor → Option Cursor) : Prop :=
  ∀ before after, reader before = some after → before.Onward after

theorem Forward.bind {first second : Cursor → Option Cursor} (start : Forward first)
    (further : Forward second) : Forward fun cursor => (first cursor).bind second := by
  intro before after read
  obtain ⟨between, taken, left⟩ := Option.bind_eq_some_iff.mp read
  exact (start before between taken).trans (further between after left)

theorem forward_eat? (word : String) : Forward (Cursor.eat? · word) := by
  intro before after read
  simp only [Cursor.eat?] at read
  split at read
  · rename_i starts
    cases read
    exact Cursor.onward_of_startsWith before word starts
  · cases read

theorem forward_plainWord? : Forward plainWord? := by
  intro before after read
  simp only [plainWord?] at read
  split at read
  · cases read
    exact Cursor.onward_skipWhile isNameContinue before
  · cases read

theorem forward_anyWord? : Forward anyWord? := by
  intro before after read
  simp only [anyWord?] at read
  split at read
  · exact forward_plainWord? before after read
  · rename_i start raw
    obtain ⟨stop, word, kept⟩ := Option.bind_eq_some_iff.mp read
    split at kept
    · cases kept
    · cases kept
      exact (forward_eat? "r#" before start raw).trans (forward_plainWord? start after word)

namespace Literal

theorem onward_suffix (cursor : Cursor) : cursor.Onward (suffix cursor) := by
  cases word : plainWord? cursor with
  | none => simpa [suffix, word] using Onward.refl cursor
  | some after => simpa [suffix, word] using forward_plainWord? cursor after word

/-! Escapes -/

theorem forward_charNumber? : Forward charNumber? := by
  rintro ⟨offset, _ | ⟨a, _ | ⟨b, rest⟩⟩⟩ after read
  · cases read
  · cases read
  · simp only [charNumber?] at read
    split at read
    · cases read
      exact ⟨[a, b], rfl, rfl⟩
    · cases read

theorem forward_byteNumber? : Forward byteNumber? := by
  rintro ⟨offset, _ | ⟨a, _ | ⟨b, rest⟩⟩⟩ after read
  · cases read
  · cases read
  · simp only [byteNumber?] at read
    split at read
    · cases read
      exact ⟨[a, b], rfl, rfl⟩
    · cases read

theorem forward_nonzeroNumber? : Forward nonzeroNumber? := by
  intro before after read
  simp only [nonzeroNumber?] at read
  split at read
  · cases read
  · exact forward_byteNumber? before after read

theorem onward_of_bracedDigits? (text : List Char) (offset count value total : Nat)
    (after : Cursor) (read : bracedDigits? offset count value text = some (total, after)) :
    Onward ⟨offset, text⟩ after := by
  induction text generalizing offset count value with
  | nil => cases read
  | cons c rest ih =>
      have step := Cursor.onward_cons offset c rest
      simp only [bracedDigits?] at read
      split at read
      · exact step.trans (ih _ _ _ read)
      · split at read
        · split at read
          · cases read
            exact step
          · cases read
        · split at read
          · cases read
          · split at read
            · cases read
            · exact step.trans (ih _ _ _ read)

theorem onward_of_codePoint? (before after : Cursor) (value : Nat)
    (read : codePoint? before = some (value, after)) : before.Onward after := by
  obtain ⟨offset, rest⟩ := before
  simp only [codePoint?] at read
  split at read
  · exact (Cursor.onward_cons offset '{' _).trans (onward_of_bracedDigits? _ _ _ _ _ _ read)
  · cases read

theorem forward_continuation? (fuel : Nat) (last : Char) : Forward (continuation? fuel last) := by
  induction fuel generalizing last with
  | zero =>
      intro before after read
      cases read
  | succ fuel ih =>
      intro before after read
      obtain ⟨start, begun, read⟩ := Option.bind_eq_some_iff.mp read
      have opened : before.Onward start := by
        split at begun
        · exact forward_eat? "\n" before start begun
        · cases begun
          rfl
      refine opened.trans ?_
      split at read
      · cases read
      · rename_i c next taken
        split at read
        · exact (Cursor.onward_of_next? start next c taken).trans (ih c next after read)
        · cases read
          rfl

/-- The readers of numbers in escapes go forward. -/
structure Escapes.Forward (escapes : Escapes) : Prop where
  number : Source.Forward escapes.number?
  codePoint : Source.Forward escapes.codePoint?

theorem forward_textEscapes : textEscapes.Forward where
  number := forward_charNumber?
  codePoint before after read := by
    obtain ⟨⟨value, _⟩, found, rfl⟩ := Option.map_eq_some_iff.mp read
    exact onward_of_codePoint? before _ value found

theorem forward_byteEscapes : byteEscapes.Forward where
  number := forward_byteNumber?
  codePoint _ _ read := by cases read

theorem forward_zeroTextEscapes : zeroTextEscapes.Forward where
  number := forward_nonzeroNumber?
  codePoint before after read := by
    obtain ⟨⟨value, stop⟩, found, kept⟩ := Option.bind_eq_some_iff.mp read
    simp only at kept
    split at kept
    · cases kept
    · cases kept
      exact onward_of_codePoint? before _ value found

section
variable (escapes : Escapes) (forward : escapes.Forward)
include forward

theorem forward_escape? : Forward (escape? escapes) := by
  intro before after read
  obtain ⟨⟨c, next⟩, taken, read⟩ := Option.bind_eq_some_iff.mp read
  refine (Cursor.onward_of_next? before next c taken).trans ?_
  simp only at read
  split at read
  · exact forward.number next after read
  · split at read
    · exact forward.codePoint next after read
    · split at read
      · cases read
        rfl
      · cases read

theorem forward_quotedText? (fuel : Nat) : Forward (quotedText? escapes fuel) := by
  induction fuel with
  | zero =>
      intro before after read
      cases read
  | succ fuel ih =>
      intro before after read
      obtain ⟨⟨c, next⟩, taken, read⟩ := Option.bind_eq_some_iff.mp read
      refine (Cursor.onward_of_next? before next c taken).trans ?_
      simp only at read
      split at read
      · cases read
        exact onward_suffix next
      · split at read
        · exact (forward_eat? "\n").bind ih next after read
        · split at read
          · split at read
            · cases read
            · rename_i e line broken
              split at read
              · exact (Cursor.onward_of_next? next line e broken).trans
                  ((forward_continuation? fuel e).bind ih line after read)
              · exact (forward_escape? escapes forward).bind ih next after read
          · split at read
            · exact ih next after read
            · cases read

end

theorem forward_rawTail? (accepts : Char → Bool) (hashes : List Char) (fuel : Nat) :
    Forward (rawTail? accepts hashes fuel) := by
  induction fuel with
  | zero =>
      intro before after read
      cases read
  | succ fuel ih =>
      intro before after read
      obtain ⟨⟨c, next⟩, taken, read⟩ := Option.bind_eq_some_iff.mp read
      refine (Cursor.onward_of_next? before next c taken).trans ?_
      simp only at read
      split at read
      · rename_i closed
        cases read
        have closing := (List.isPrefixOf_iff_prefix.mp (Bool.and_eq_true_iff.mp closed).2).length_le
        exact (Cursor.onward_advance next _ closing).trans (onward_suffix _)
      · split at read
        · exact (forward_eat? "\n").bind ih next after read
        · split at read
          · exact ih next after read
          · cases read

theorem forward_rawText? (accepts : Char → Bool) (fuel : Nat) : Forward (rawText? accepts fuel) := by
  intro before after read
  simp only [rawText?] at read
  split at read
  · cases read
  · exact (Cursor.onward_skipWhile (· = '#') before).trans
      ((forward_eat? "\"").bind (forward_rawTail? accepts _ fuel) _ after read)

theorem forward_textWith? (escapes : Escapes) (forward : escapes.Forward) (quoted raw : String)
    (fuel : Nat) : Forward (textWith? escapes quoted raw fuel) := by
  intro before after read
  simp only [textWith?] at read
  split at read
  · rename_i start opened
    exact (forward_eat? quoted before start opened).trans
      (forward_quotedText? escapes forward fuel start after read)
  · exact (forward_eat? raw).bind (forward_rawText? escapes.accepts fuel) before after read

theorem forward_single? (escapes : Escapes) (forward : escapes.Forward) (opening : String) :
    Forward (single? escapes opening) := by
  intro before after read
  obtain ⟨start, opened, read⟩ := Option.bind_eq_some_iff.mp read
  obtain ⟨⟨c, next⟩, taken, read⟩ := Option.bind_eq_some_iff.mp read
  have closing (inside : Cursor) (finish : ((inside.eat? "'").bind fun stop => some (suffix stop))
      = some after) : inside.Onward after := by
    obtain ⟨stop, closed, same⟩ := Option.bind_eq_some_iff.mp finish
    cases same
    exact (forward_eat? "'" inside stop closed).trans (onward_suffix stop)
  refine ((forward_eat? opening before start opened).trans
    (Cursor.onward_of_next? start next c taken)).trans ?_
  simp only at read
  split at read
  · obtain ⟨inside, escaped, finish⟩ := Option.bind_eq_some_iff.mp read
    exact (forward_escape? escapes forward next inside escaped).trans (closing inside finish)
  · split at read
    · exact closing next read
    · cases read

/-! Numbers -/

theorem onward_of_mantissa? (text : List Char) (point seen exponent : Bool) (offset : Nat)
    (after : Cursor) (read : mantissa? point offset text = some (after, seen, exponent)) :
    Onward ⟨offset, text⟩ after := by
  induction text generalizing offset point with
  | nil =>
      cases read
      rfl
  | cons c rest ih =>
      have step := Cursor.onward_cons offset c rest
      simp only [mantissa?] at read
      split at read
      · exact step.trans (ih _ _ read)
      · split at read
        · split at read
          · cases read
          · exact step.trans (ih _ _ read)
        · split at read
          · cases read
            exact step
          · cases read
            rfl

theorem onward_of_exponent? (text : List Char) (sign digit : Bool) (offset : Nat) (after : Cursor)
    (read : exponent? sign digit offset text = some after) : Onward ⟨offset, text⟩ after := by
  induction text generalizing offset sign digit with
  | nil =>
      simp only [exponent?] at read
      split at read
      · cases read
        rfl
      · cases read
  | cons c rest ih =>
      have step := Cursor.onward_cons offset c rest
      simp only [exponent?] at read
      split at read
      · split at read
        · cases read
        · exact step.trans (ih _ _ _ read)
      · split at read
        · exact step.trans (ih _ _ _ read)
        · split at read
          · exact step.trans (ih _ _ _ read)
          · split at read
            · cases read
              rfl
            · cases read

theorem forward_decimalDigits? : Forward decimalDigits? := by
  intro before after read
  simp only [decimalDigits?] at read
  split at read
  · split at read
    · cases read
    · cases read
    · rename_i stop digits
      cases read
      exact onward_of_mantissa? _ _ _ _ _ _ digits
    · rename_i stop point digits
      have mantissa := onward_of_mantissa? _ _ _ _ _ _ digits
      split at read
      · rename_i found exponent
        cases read
        exact mantissa.trans (onward_of_exponent? _ _ _ _ _ exponent)
      · split at read
        · -- The number ends in front of the letter, which was one of the characters taken.
          cases read
          obtain ⟨taken, rest, offset⟩ := mantissa
          have size : before.rest.length = taken.length + stop.rest.length := by
            rw [← List.length_append, ← rest]
          have place : stop.offset = before.offset + taken.length := offset
          exact Cursor.onward_advance before _ (by omega)
        · cases read
  · cases read

theorem forward_ended? : Forward ended? := by
  intro before after read
  simp only [ended?] at read
  split at read
  · cases read
  · cases read
    exact onward_suffix before

theorem onward_of_wholeDigits? (text : List Char) (base : Nat) (empty : Bool) (offset : Nat)
    (after : Cursor) (read : wholeDigits? base empty offset text = some after) :
    Onward ⟨offset, text⟩ after := by
  induction text generalizing offset empty with
  | nil =>
      simp only [wholeDigits?] at read
      split at read
      · cases read
      · cases read
        rfl
  | cons c rest ih =>
      have step := Cursor.onward_cons offset c rest
      simp only [wholeDigits?] at read
      split at read
      · split at read
        · cases read
        · exact step.trans (ih _ _ read)
      · split at read
        · split at read
          · exact step.trans (ih _ _ read)
          · split at read
            · cases read
            · split at read
              · cases read
              · cases read
                rfl
        · split at read
          · cases read
          · cases read
            rfl

theorem onward_wholeStart (cursor : Cursor) : cursor.Onward (wholeStart cursor).2 := by
  simp only [wholeStart]
  split
  · exact Cursor.onward_of_startsWith cursor "0x" ‹_›
  · split
    · exact Cursor.onward_of_startsWith cursor "0o" ‹_›
    · split
      · exact Cursor.onward_of_startsWith cursor "0b" ‹_›
      · rfl

theorem forward_whole? : Forward whole? := by
  intro before after read
  obtain ⟨stop, digits, read⟩ := Option.bind_eq_some_iff.mp read
  exact ((onward_wholeStart before).trans (onward_of_wholeDigits? _ _ _ _ _ digits)).trans
    (forward_ended? stop after read)

theorem onward_of_read? (fuel : Nat) (before after : Cursor) (kind : LiteralKind)
    (read : read? fuel before = some (kind, after)) : before.Onward after := by
  have tagged {reader : Cursor → Option Cursor} {found : LiteralKind} (forward : Forward reader)
      (given : (reader before).map (found, ·) = some (kind, after)) : before.Onward after := by
    obtain ⟨_, taken, same⟩ := Option.map_eq_some_iff.mp given
    cases same
    exact forward before after taken
  simp only [read?, Option.orElse_eq_orElse, Option.orElse_eq_or, Option.or_eq_some_iff] at read
  obtain text | ⟨-, bytes | ⟨-, zeroText | ⟨-, byte | ⟨-, char | ⟨-, decimal | ⟨-, whole⟩⟩⟩⟩⟩⟩ :=
    read
  · exact tagged (forward_textWith? _ forward_textEscapes _ _ _) text
  · exact tagged (forward_textWith? _ forward_byteEscapes _ _ _) bytes
  · exact tagged (forward_textWith? _ forward_zeroTextEscapes _ _ _) zeroText
  · exact tagged (forward_single? _ forward_byteEscapes _) byte
  · exact tagged (forward_single? _ forward_textEscapes _) char
  · exact tagged (forward_decimalDigits?.bind forward_ended?) decimal
  · exact tagged forward_whole? whole

end Literal

namespace Lexer

/-! Comments -/

theorem onward_restOfLine (cursor : Cursor) : cursor.Onward (restOfLine cursor) := by
  obtain ⟨offset, rest⟩ := cursor
  simp only [restOfLine]
  fun_induction lineEnd offset rest with
  | case1 offset rest => rfl
  | case2 offset rest => exact Cursor.onward_cons offset '\r' _
  | case3 offset c rest _ _ ih => exact (Cursor.onward_cons offset c rest).trans ih
  | case4 offset => rfl

theorem onward_of_blockEnd? (depth offset : Nat) (text : List Char) (after : Cursor)
    (read : blockEnd? depth offset text = some after) : Onward ⟨offset, text⟩ after := by
  have pair (offset : Nat) (a b : Char) (rest : List Char) :
      Onward ⟨offset, a :: b :: rest⟩ ⟨offset + 2, rest⟩ := ⟨[a, b], rfl, rfl⟩
  fun_induction blockEnd? depth offset text with
  | case1 depth offset rest ih => exact (pair ..).trans (ih read)
  | case2 depth offset rest outermost =>
      cases read
      exact pair ..
  | case3 depth offset rest inner ih => exact (pair ..).trans (ih read)
  | case4 depth offset c rest _ _ ih => exact (Cursor.onward_cons offset c rest).trans (ih read)
  | case5 => cases read

theorem forward_blockComment? : Forward blockComment? :=
  fun before after read => onward_of_blockEnd? 0 before.offset before.rest after read

theorem forward_plainComment? : Forward plainComment? := by
  intro before after read
  simp only [plainComment?] at read
  split at read
  · cases read
    exact onward_restOfLine before
  · split at read
    · rename_i empty
      cases read
      exact Cursor.onward_of_startsWith before "/**/" empty
    · split at read
      · exact forward_blockComment? before after read
      · cases read

theorem onward_skipBlank (fuel : Nat) (cursor : Cursor) : cursor.Onward (skipBlank fuel cursor) := by
  induction fuel generalizing cursor with
  | zero => rfl
  | succ fuel ih =>
      simp only [skipBlank]
      split
      · rename_i after comment
        exact (forward_plainComment? cursor after comment).trans (ih after)
      · split
        · rename_i c after next
          split
          · exact (Cursor.onward_of_next? cursor after c next).trans (ih after)
          · rfl
        · rfl

theorem onward_of_docText? (before after : Cursor) (inner : Bool) (text : List Char)
    (read : docText? before = some (inner, text, after)) : before.Onward after := by
  have block {mark : Bool} (found : ((blockComment? before).map
      fun stop => (mark, before.between stop, stop)) = some (inner, text, after)) :
      before.Onward after := by
    obtain ⟨stop, taken, same⟩ := Option.map_eq_some_iff.mp found
    cases same
    exact forward_blockComment? before _ taken
  simp only [docText?] at read
  split at read
  · rename_i starts
    cases read
    exact (Cursor.onward_of_startsWith before "//!" starts).trans (onward_restOfLine _)
  · split at read
    · exact block read
    · split at read
      · rename_i starts
        split at read
        · cases read
        · cases read
          exact (Cursor.onward_of_startsWith before "///" starts).trans (onward_restOfLine _)
      · split at read
        · exact block read
        · cases read

end Lexer
end HttpBinding.Source
