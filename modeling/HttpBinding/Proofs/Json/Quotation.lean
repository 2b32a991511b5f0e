import HttpBinding.Json.Reader
import HttpBinding.Json.Value
import HttpBinding.Proofs.Text.Quotation

/-!
Texts in quotes. Every character of a text, written as it may stand between quotes, is read
back as that character, so what was quoted is what a reader finds up to the closing quote.
-/
namespace HttpBinding.Json

open Text (hexDigit hexValue?)

theorem hexQuad?_of_digits (value : Nat) (small : value < 0x100) (rest : List Char) :
    hexQuad? ('0' :: '0' :: hexDigit (value / 16) :: hexDigit (value % 16) :: rest)
      = some (value, rest) := by
  have high : value / 16 < 16 := by omega
  have low : value % 16 < 16 := by omega
  have zero : hexValue? '0' = some 0 := by decide
  simp only [hexQuad?, zero, Text.hexValue?_hexDigit _ high, Text.hexValue?_hexDigit _ low,
    Option.bind_eq_bind, Option.bind_some, Option.pure_def]
  congr 2
  omega

theorem nextUnit?_unicodeEscape (c : Char) (control : c.toNat < 0x20) (rest : List Char) :
    nextUnit? (unicodeEscape c ++ rest) = some (.char c, rest) := by
  have whole : (isHighHalf c.toNat || isLowHalf c.toNat) = false := by
    simp [isHighHalf, isLowHalf]
    omega
  simp only [unicodeEscape, List.cons_append, List.nil_append, nextUnit?,
    hexQuad?_of_digits c.toNat (by omega), Option.map_some, whole]
  simp

theorem nextUnit?_plain (c : Char) (rest : List Char) (notQuote : c ≠ '"')
    (notBackslash : c ≠ '\\') (visible : ¬ c.toNat < 0x20) :
    nextUnit? (c :: rest) = some (.char c, rest) := by
  unfold nextUnit?
  split <;> simp_all

/-- One step of reading: a character is taken off the front, however it is written. -/
theorem nextUnit?_escapedChar (c : Char) (rest : List Char) :
    nextUnit? (escapedChar c ++ rest) = some (.char c, rest) := by
  -- one case for each way to write a character, in the order in which `escapedChar` tries them
  unfold escapedChar
  split_ifs with quote backslash backspace feed newline carriage tab control
  · subst quote; rfl
  · subst backslash; rfl
  · subst backspace; rfl
  · subst feed; rfl
  · subst newline; rfl
  · subst carriage; rfl
  · subst tab; rfl
  · exact nextUnit?_unicodeEscape c control rest
  · exact nextUnit?_plain c rest quote backslash control

theorem escapedChar_ne_nil (c : Char) : escapedChar c ≠ [] := by
  unfold escapedChar unicodeEscape
  split_ifs <;> simp

theorem length_le_escaped (text : List Char) :
    text.length ≤ (text.flatMap escapedChar).length := by
  induction text with
  | nil => simp
  | cons c rest ih =>
      have taken := List.length_pos_iff.mpr (escapedChar_ne_nil c)
      rw [List.flatMap_cons, List.length_append, List.length_cons]
      omega

theorem units?_escaped (text rest : List Char) (fuel : Nat) (room : text.length < fuel) :
    units? fuel (text.flatMap escapedChar ++ '"' :: rest) = some (text.map .char, rest) := by
  induction text generalizing fuel with
  | nil =>
      cases fuel with
      | zero => omega
      | succ fuel => rfl
  | cons c more ih =>
      cases fuel with
      | zero => omega
      | succ fuel =>
          have left : more.length < fuel := by simpa using room
          rw [List.flatMap_cons, List.append_assoc, units?, nextUnit?_escapedChar]
          simp [ih fuel left]

theorem decode?_chars (text : List Char) : decode? (text.map .char) = some text := by
  induction text with
  | nil => rfl
  | cons c rest ih => simp [decode?, ih]

/-- What was quoted is read up to the closing quote. -/
theorem text?_escaped (text : String) (rest : List Char) :
    text? (text.toList.flatMap escapedChar ++ '"' :: rest) = some (some text, rest) := by
  have room := length_le_escaped text.toList
  rw [text?, units?_escaped _ _ _ (by rw [List.length_append]; omega)]
  simp [decode?_chars]

theorem quoted_append (text : String) (rest : List Char) :
    quoted text ++ rest = '"' :: (text.toList.flatMap escapedChar ++ '"' :: rest) := by
  simp [quoted]

end HttpBinding.Json
