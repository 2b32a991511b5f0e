import HttpBinding.Text.Quoted
import Mathlib.Algebra.Group.Nat.Defs
import Mathlib.Tactic.SplitIfs

/-!
A quoted literal denotes what was quoted. Reading undoes every escape, whatever the
character: the short ones, the quote in use, and the numbers in braces.
-/
namespace HttpBinding.Text

theorem hexValue?_hexDigit : ∀ value < 16, hexValue? (hexDigit value) = some value := by decide

theorem hexDigit_ne_brace : ∀ value < 16, hexDigit value ≠ '}' := by decide

theorem hexDigits_ne_nil (value : Nat) : hexDigits value ≠ [] := by
  rw [hexDigits]
  split <;> simp

theorem brace_not_mem_hexDigits (value : Nat) : ∀ c ∈ hexDigits value, c ≠ '}' := by
  induction value using hexDigits.induct with
  | case1 value small =>
      rw [hexDigits, if_pos small]
      simpa using hexDigit_ne_brace value small
  | case2 value large ih =>
      rw [hexDigits, if_neg large]
      intro c member
      rcases List.mem_append.mp member with earlier | last
      · exact ih c earlier
      · have bound : value % 16 < 16 := Nat.mod_lt value (by decide)
        rw [List.mem_singleton.mp last]
        exact hexDigit_ne_brace _ bound

theorem length_hexDigits_le (value room : Nat) (bound : value < 16 ^ (room + 1)) :
    (hexDigits value).length ≤ room + 1 := by
  induction room generalizing value with
  | zero => rw [hexDigits, if_pos (by simpa using bound)]; simp
  | succ room ih =>
      rw [hexDigits]
      split
      · simp
      · have shorter : value / 16 < 16 ^ (room + 1) := by
          rw [Nat.pow_succ] at bound
          exact Nat.div_lt_of_lt_mul (by omega)
        simpa using ih (value / 16) shorter

theorem foldlM_hexDigits (value : Nat) :
    (hexDigits value).foldlM (fun total c => (hexValue? c).map (total * 16 + ·)) 0
      = some value := by
  induction value using hexDigits.induct with
  | case1 value small =>
      rw [hexDigits, if_pos small]
      simp [hexValue?_hexDigit value small]
  | case2 value large ih =>
      have bound : value % 16 < 16 := Nat.mod_lt value (by decide)
      rw [hexDigits, if_neg large, List.foldlM_append, ih]
      simp [hexValue?_hexDigit _ bound]
      omega

theorem toNat_lt_hex (c : Char) : c.toNat < 16 ^ 6 := by
  have valid := c.valid
  simp only [UInt32.isValidChar, Nat.isValidChar, Char.toNat_val] at valid
  omega

theorem hexNumber?_hexDigits (c : Char) : hexNumber? (hexDigits c.toNat) = some c.toNat := by
  have bound := toNat_lt_hex c
  have short := length_hexDigits_le c.toNat 5 bound
  have nonempty := hexDigits_ne_nil c.toNat
  rw [hexNumber?, if_neg (by simp [nonempty]; omega), foldlM_hexDigits]

theorem numbered?_hexDigits (c : Char) (rest : List Char) :
    numbered? (hexDigits c.toNat ++ '}' :: rest) = some (c, rest) := by
  have digits : ∀ d ∈ hexDigits c.toNat, decide (d ≠ '}') = true := by
    simpa using brace_not_mem_hexDigits c.toNat
  have valid : c.toNat.isValidChar := c.valid
  rw [numbered?, List.dropWhile_append_of_pos digits, List.takeWhile_append_of_pos digits]
  simp [hexNumber?_hexDigits, valid]

/-- A quote may be escaped by a backslash: neither the backslash itself nor the first
letter of another escape. -/
def IsQuote (quote : Char) : Prop := quote = '"' ∨ quote = '\''

theorem escaped_ne_nil (quote c : Char) : escaped quote c ≠ [] := by
  unfold escaped byNumber
  split_ifs <;> simp

theorem unquoteUntil?_escape (quote denoted : Char) (fuel : Nat) (text after : List Char)
    (notBackslash : '\\' ≠ quote) (read : unescape? text = some (denoted, after)) :
    unquoteUntil? quote (fuel + 1) ('\\' :: text)
      = (unquoteUntil? quote fuel after).map (denoted :: ·) := by
  rw [unquoteUntil?, if_neg notBackslash, if_pos rfl, read, Option.bind_some]

theorem unquoteUntil?_plain (quote c : Char) (fuel : Nat) (rest : List Char)
    (notQuote : c ≠ quote) (notBackslash : c ≠ '\\') :
    unquoteUntil? quote (fuel + 1) (c :: rest)
      = (unquoteUntil? quote fuel rest).map (c :: ·) := by
  rw [unquoteUntil?, if_neg notQuote, if_neg notBackslash]

theorem unescape?_byNumber (c : Char) (rest : List Char) :
    ∃ text, byNumber c ++ rest = '\\' :: text ∧ unescape? text = some (c, rest) := by
  refine ⟨'u' :: '{' :: (hexDigits c.toNat ++ '}' :: rest), ?_, numbered?_hexDigits c rest⟩
  simp [byNumber]

/-- One step of reading: an escaped character is taken off the front. -/
theorem unquoteUntil?_escaped (quote c : Char) (isQuote : IsQuote quote) (fuel : Nat)
    (rest : List Char) :
    unquoteUntil? quote (fuel + 1) (escaped quote c ++ rest)
      = (unquoteUntil? quote fuel rest).map (c :: ·) := by
  have notBackslash : '\\' ≠ quote := by rcases isQuote with rfl | rfl <;> decide
  have quoteRead : unescape? (quote :: rest) = some (quote, rest) := by
    rcases isQuote with rfl | rfl <;> rfl
  obtain ⟨number, written, numberRead⟩ := unescape?_byNumber c rest
  -- one case for each way to write a character, in the order in which `escaped` tries them
  unfold escaped
  split_ifs with null tab carriage newline backslash same mark visible
  · subst null
    exact unquoteUntil?_escape quote _ fuel _ rest notBackslash rfl
  · subst tab
    exact unquoteUntil?_escape quote _ fuel _ rest notBackslash rfl
  · subst carriage
    exact unquoteUntil?_escape quote _ fuel _ rest notBackslash rfl
  · subst newline
    exact unquoteUntil?_escape quote _ fuel _ rest notBackslash rfl
  · subst backslash
    exact unquoteUntil?_escape quote _ fuel _ rest notBackslash rfl
  · subst same
    exact unquoteUntil?_escape c c fuel _ rest notBackslash quoteRead
  · rw [written]
    exact unquoteUntil?_escape quote c fuel number rest notBackslash numberRead
  · exact unquoteUntil?_plain quote c fuel rest same backslash
  · rw [written]
    exact unquoteUntil?_escape quote c fuel number rest notBackslash numberRead

theorem unquoteUntil?_flatMap_escaped (quote : Char) (isQuote : IsQuote quote)
    (text : List Char) (fuel : Nat)
    (room : (text.flatMap (escaped quote)).length < fuel) :
    unquoteUntil? quote fuel (text.flatMap (escaped quote) ++ [quote]) = some text := by
  induction text generalizing fuel with
  | nil =>
      cases fuel with
      | zero => omega
      | succ fuel => simp [unquoteUntil?]
  | cons c rest ih =>
      cases fuel with
      | zero => omega
      | succ fuel =>
          -- A step takes one unit of fuel and at least one character.
          have taken := List.length_pos_iff.mpr (escaped_ne_nil quote c)
          simp only [List.flatMap_cons, List.length_append] at room
          rw [List.flatMap_cons, List.append_assoc, unquoteUntil?_escaped quote c isQuote,
            ih fuel (by omega)]
          rfl

theorem toList_quotedText (text : String) :
    (quotedText text).toList = '"' :: text.toList.flatMap (escaped '"') ++ ['"'] :=
  String.toList_ofList

/-- Every text is what its literal denotes. -/
theorem unquoteText?_quotedText (text : String) : unquoteText? (quotedText text) = some text := by
  have room : (text.toList.flatMap (escaped '"')).length
      < (text.toList.flatMap (escaped '"') ++ ['"']).length + 1 := by
    rw [List.length_append]
    omega
  simp only [unquoteText?, toList_quotedText, List.cons_append]
  rw [unquoteUntil?_flatMap_escaped '"' (.inl rfl) text.toList _ room, Option.map_some,
    String.ofList_toList]

theorem toList_quotedChar (c : Char) :
    (quotedChar c).toList = '\'' :: escaped '\'' c ++ ['\''] :=
  String.toList_ofList

/-- Every character is what its literal denotes. -/
theorem unquoteChar?_quotedChar (c : Char) : unquoteChar? (quotedChar c) = some c := by
  have single : escaped '\'' c = [c].flatMap (escaped '\'') := by simp
  have room : ([c].flatMap (escaped '\'')).length
      < ([c].flatMap (escaped '\'') ++ ['\'']).length + 1 := by
    rw [List.length_append]
    omega
  simp only [unquoteChar?, toList_quotedChar, List.cons_append, single]
  rw [unquoteUntil?_flatMap_escaped '\'' (.inr rfl) [c] _ room]

end HttpBinding.Text
