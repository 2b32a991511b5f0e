import HttpBinding.Proofs.Text.Quotation
import HttpBinding.Source.Lexer

/-!
Generated literals are literals of a source unit. What is written between quotes is read as
one token that spans all of it, so no character of it ends the literal early or makes it
ill-formed.
-/
namespace HttpBinding.Source.Literal

open Text (IsQuote escaped hexDigits hexValue? quotedChar quotedText)

theorem bracedDigits?_of_digits (digits rest : List Char) (offset count value total : Nat)
    (read : digits.foldlM (fun value c => (hexValue? c).map (value * 16 + ·)) value = some total)
    (nonempty : 0 < count + digits.length) (room : count + digits.length ≤ 6)
    (valid : total.isValidChar) :
    bracedDigits? offset count value (digits ++ '}' :: rest)
      = some (total, ⟨offset + digits.length + 1, rest⟩) := by
  induction digits generalizing offset count value with
  | nil =>
      obtain rfl : value = total := Option.some.inj read
      simp only [List.length_nil, Nat.add_zero] at nonempty
      simp [bracedDigits?, nonempty, valid]
  | cons digit more ih =>
      rw [List.foldlM_cons] at read
      cases worth : hexValue? digit with
      | none => simp [worth] at read
      | some amount =>
          have notLine : digit ≠ '_' := by
            rintro rfl
            cases worth
          have notBrace : digit ≠ '}' := by
            rintro rfl
            cases worth
          simp only [worth, Option.map_some, Option.bind_eq_bind, Option.bind_some] at read
          simp only [List.length_cons] at nonempty room
          rw [List.cons_append, bracedDigits?, if_neg (by simp [notLine]),
            if_neg (by simp [notBrace]), worth]
          simp only [show count ≠ 6 by omega, ↓reduceIte]
          rw [ih (offset + 1) (count + 1) _ read (by omega) (by omega), List.length_cons]
          congr 3
          omega

theorem codePoint?_hexDigits (c : Char) (offset : Nat) (rest : List Char) :
    codePoint? ⟨offset, '{' :: (hexDigits c.toNat ++ '}' :: rest)⟩
      = some (c.toNat, ⟨offset + (hexDigits c.toNat).length + 2, rest⟩) := by
  have nonempty := List.length_pos_iff.mpr (Text.hexDigits_ne_nil c.toNat)
  have short := Text.length_hexDigits_le c.toNat 5 (Text.toNat_lt_hex c)
  have read := bracedDigits?_of_digits (hexDigits c.toNat) rest (offset + 1) 0 0 c.toNat
    (Text.foldlM_hexDigits c.toNat) (by omega) (by omega) c.valid
  simp only [codePoint?, read]
  congr 3
  omega

/-- How a character stands in a literal: as it is, if it means nothing else there, or as an
escape that is read to its end. -/
inductive Escaped (quote c : Char) : List Char → Prop where
  | plain (notQuote : c ≠ quote) (notBackslash : c ≠ '\\') (notReturn : c ≠ '\r') :
      Escaped quote c [c]
  | escape (letter : Char) (more : List Char) (notFeed : letter ≠ '\n') (notReturn : letter ≠ '\r')
      (read : ∀ offset rest, escape? textEscapes ⟨offset, letter :: more ++ rest⟩
        = some ⟨offset + more.length + 1, rest⟩) :
      Escaped quote c ('\\' :: letter :: more)

theorem escaped_byNumber (quote c : Char) : Escaped quote c (Text.byNumber c) := by
  have whole : Text.byNumber c = '\\' :: 'u' :: ('{' :: (hexDigits c.toNat ++ ['}'])) := by
    simp [Text.byNumber]
  rw [whole]
  refine .escape _ _ (by decide) (by decide) ?_
  intro offset rest
  have read := codePoint?_hexDigits c (offset + 1) rest
  simp only [escape?, Cursor.next?, textEscapes, List.cons_append, List.append_assoc,
    List.nil_append, Option.bind_some, Char.reduceEq, ↓reduceIte, read, Option.map_some,
    List.length_cons, List.length_append, List.length_nil]
  congr 2
  omega

theorem escaped_simple (quote c letter : Char) (notFeed : letter ≠ '\n') (notReturn : letter ≠ '\r')
    (simple : textEscapes.isSimple letter = true) (notNumber : letter ≠ 'x' ∧ letter ≠ 'u') :
    Escaped quote c ['\\', letter] := by
  refine .escape _ _ notFeed notReturn ?_
  intro offset rest
  simp [escape?, Cursor.next?, notNumber, simple]

theorem escaped_escaped (quote c : Char) (isQuote : IsQuote quote) :
    Escaped quote c (escaped quote c) := by
  unfold escaped
  split_ifs with null tab carriage newline backslash same mark visible
  · exact escaped_simple _ _ _ (by decide) (by decide) (by decide) (by decide)
  · exact escaped_simple _ _ _ (by decide) (by decide) (by decide) (by decide)
  · exact escaped_simple _ _ _ (by decide) (by decide) (by decide) (by decide)
  · exact escaped_simple _ _ _ (by decide) (by decide) (by decide) (by decide)
  · exact escaped_simple _ _ _ (by decide) (by decide) (by decide) (by decide)
  · rcases isQuote with rfl | rfl
    · exact escaped_simple _ _ _ (by decide) (by decide) (by decide) (by decide)
    · exact escaped_simple _ _ _ (by decide) (by decide) (by decide) (by decide)
  · exact escaped_byNumber quote c
  · exact .plain same backslash carriage
  · exact escaped_byNumber quote c

/-- A step over one character of a text. -/
theorem quotedText?_escaped (c : Char) (written : List Char) (escaped : Escaped '"' c written)
    (fuel offset : Nat) (rest : List Char) :
    quotedText? textEscapes (fuel + 1) ⟨offset, written ++ rest⟩
      = quotedText? textEscapes fuel ⟨offset + written.length, rest⟩ := by
  cases escaped with
  | plain notQuote notBackslash notReturn =>
      simp [quotedText?, Cursor.next?, notQuote, notBackslash, notReturn, textEscapes]
  | escape letter more notFeed notReturn read =>
      have taken := read (offset + 1) rest
      simp only [List.cons_append] at taken
      simp only [quotedText?, Cursor.next?, List.cons_append, Option.bind_some, Char.reduceEq,
        ↓reduceIte, notFeed, notReturn, decide_false, Bool.or_self, Bool.false_eq_true, taken]
      congr 2
      simp only [List.length_cons]
      omega

theorem quotedText?_quoted (text : List Char) (fuel offset : Nat)
    (room : (text.flatMap (escaped '"')).length < fuel) :
    quotedText? textEscapes fuel ⟨offset, text.flatMap (escaped '"') ++ ['"']⟩
      = some ⟨offset + (text.flatMap (escaped '"')).length + 1, []⟩ := by
  induction text generalizing fuel offset with
  | nil =>
      cases fuel with
      | zero => omega
      | succ fuel => simp [quotedText?, Cursor.next?, suffix, plainWord?, Cursor.sees]
  | cons c rest ih =>
      cases fuel with
      | zero => omega
      | succ fuel =>
          have taken := List.length_pos_iff.mpr (Text.escaped_ne_nil '"' c)
          rw [List.flatMap_cons, List.length_append] at room
          rw [List.flatMap_cons, List.append_assoc,
            quotedText?_escaped c _ (escaped_escaped '"' c (.inl rfl)), ih fuel _ (by omega)]
          congr 2
          simp only [List.length_append]
          omega

theorem single?_escaped (c : Char) (written : List Char) (escaped : Escaped '\'' c written) :
    single? textEscapes "'" ⟨0, '\'' :: written ++ ['\'']⟩ = some ⟨written.length + 2, []⟩ := by
  have quote (offset : Nat) (rest : List Char) :
      (⟨offset, '\'' :: rest⟩ : Cursor).eat? "'" = some ⟨offset + 1, rest⟩ := rfl
  have nothing (offset : Nat) : suffix ⟨offset, []⟩ = ⟨offset, []⟩ := rfl
  rw [single?, List.cons_append, quote]
  cases escaped with
  | plain notQuote notBackslash notReturn =>
      simp [Cursor.next?, notBackslash, textEscapes, quote, nothing]
  | escape letter more notFeed notReturn read =>
      have taken := read 2 ['\'']
      simp only [List.cons_append] at taken
      simp [Cursor.next?, taken, quote, nothing]
      omega

/-! Tokens -/

theorem read?_quotedText (text : List Char) (fuel : Nat)
    (room : (text.flatMap (escaped '"')).length < fuel) :
    read? fuel ⟨0, '"' :: text.flatMap (escaped '"') ++ ['"']⟩
      = some (.text, ⟨(text.flatMap (escaped '"')).length + 2, []⟩) := by
  have quote (rest : List Char) : (⟨0, '"' :: rest⟩ : Cursor).eat? "\"" = some ⟨1, rest⟩ := rfl
  have read := quotedText?_quoted text fuel 1 room
  simp only [read?, textWith?, List.cons_append, quote, read, Option.map_some]
  rw [Nat.add_comm 1, Nat.add_assoc]
  rfl

theorem read?_quotedChar (c : Char) (fuel : Nat) :
    read? fuel ⟨0, '\'' :: escaped '\'' c ++ ['\'']⟩
      = some (.char, ⟨(escaped '\'' c).length + 2, []⟩) := by
  have read := single?_escaped c _ (escaped_escaped '\'' c (.inr rfl))
  have noText (escapes : Escapes) (quoted raw : String) (rest : List Char)
      (first : (⟨0, '\'' :: rest⟩ : Cursor).eat? quoted = none)
      (second : (⟨0, '\'' :: rest⟩ : Cursor).eat? raw = none) :
      textWith? escapes quoted raw fuel ⟨0, '\'' :: rest⟩ = none := by
    rw [textWith?, first, second]
    rfl
  have noByte (rest : List Char) : single? byteEscapes "b'" ⟨0, '\'' :: rest⟩ = none := rfl
  rw [List.cons_append] at read ⊢
  rw [read?, noText _ _ _ _ rfl rfl, noText _ _ _ _ rfl rfl, noText _ _ _ _ rfl rfl, noByte, read]
  rfl

theorem tokensFrom_quote (first : Char) (rest : List Char) (isQuote : IsQuote first)
    (limit fuel : Nat) (found : List Token) :
    Lexer.tokensFrom limit (fuel + 1) [] found ⟨0, first :: rest⟩
      = (Lexer.leaf? limit ⟨0, first :: rest⟩).bind fun (token, stop) =>
        Lexer.tokensFrom limit fuel [] (token :: found) stop := by
  have visible : Lexer.skipBlank limit ⟨0, first :: rest⟩ = ⟨0, first :: rest⟩ := by
    cases limit with
    | zero => rfl
    | succ limit => rcases isQuote with rfl | rfl <;> rfl
  rw [Lexer.tokensFrom, visible]
  rcases isQuote with rfl | rfl <;> rfl

/-- The text is one literal of the kind, from its first character to its last. -/
def IsLiteral (kind : LiteralKind) (text : String) : Prop :=
  Lexer.tokens? text.toList = some [.literal kind text ⟨0, text.length⟩]

theorem isLiteral_of_read (kind : LiteralKind) (text : String) (first : Char) (rest : List Char)
    (written : text.toList = first :: rest) (isQuote : IsQuote first)
    (read : read? (text.length + 1) ⟨0, text.toList⟩ = some (kind, ⟨text.length, []⟩)) :
    IsLiteral kind text := by
  have leaf : Lexer.leaf? (text.length + 1) ⟨0, text.toList⟩
      = some (.literal kind text ⟨0, text.length⟩, ⟨text.length, []⟩) := by
    rw [Lexer.leaf?, Lexer.literal?, read]
    simp [Cursor.between, ← String.length_toList]
  have unmarked : (⟨0, first :: rest⟩ : Cursor).sees (· = Lexer.byteOrderMark) = false := by
    rcases isQuote with rfl | rfl <;> rfl
  rw [IsLiteral, Lexer.tokens?, String.length_toList]
  rw [written] at leaf ⊢
  simp only [unmarked, Bool.false_eq_true, ↓reduceIte]
  rw [tokensFrom_quote first rest isQuote, leaf]
  rfl

theorem isLiteral_quotedText (text : String) : IsLiteral .text (quotedText text) := by
  have written := Text.toList_quotedText text
  have size : (quotedText text).length = (text.toList.flatMap (escaped '"')).length + 2 := by
    simp [← String.length_toList, written]
  refine isLiteral_of_read .text _ _ _ written (.inl rfl) ?_
  rw [written, size]
  exact read?_quotedText text.toList _ (by omega)

theorem isLiteral_quotedChar (c : Char) : IsLiteral .char (quotedChar c) := by
  have written := Text.toList_quotedChar c
  have size : (quotedChar c).length = (escaped '\'' c).length + 2 := by
    simp [← String.length_toList, written]
  refine isLiteral_of_read .char _ _ _ written (.inr rfl) ?_
  rw [written, size]
  exact read?_quotedChar c _

end HttpBinding.Source.Literal
