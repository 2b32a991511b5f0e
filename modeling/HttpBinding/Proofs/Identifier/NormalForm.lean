import HttpBinding.Proofs.Identifier.SnakeForm
import HttpBinding.Proofs.Text.Case
import HttpBinding.Proofs.Text.Pieces

/-!
Spellings of a name are normal forms: what is spelled once stays the same when it is spelled
again. The CamelCase and the lowerCamel form have this for every name, the lower_snake form
for ASCII names; a name without capitals is its own lower_snake form.
-/
namespace HttpBinding.Identifier

open Text

/-! CamelCase -/

theorem isCapital_toUpper (c : Char) (small : isSmallAscii c = true) : IsCapital c.toUpper := by
  have range := ((Bool.and_eq_true ..).mp small).2
  have ascii : c.toNat < 0x80 := Nat.lt_of_le_of_lt (of_decide_eq_true range) (by decide)
  exact isCapital_of_isUpper c.toUpper (forall_ascii
    (fun c => isSmallAscii c = true → c.toUpper.isUpper = true) (by decide) c ascii small)

theorem toUpper_of_unsmall (c : Char) (unsmall : isSmallAscii c = false) : c.toUpper = c := by
  refine dif_neg fun range => ?_
  have small : isSmallAscii c = true :=
    (Bool.and_eq_true ..).mpr ⟨decide_eq_true range.1, decide_eq_true range.2⟩
  simp [small] at unsmall

theorem unsmall_toUpper (c : Char) : isSmallAscii c.toUpper = false := by
  cases small : isSmallAscii c with
  | true => exact (isCapital_toUpper c small).unsmall
  | false => rwa [toUpper_of_unsmall c small]

theorem not_small_of_isDigit (c : Char) (digit : c.isDigit = true) : isSmallAscii c = false := by
  have range := Char.isDigit_iff_toNat.mp digit
  have ascii : c.toNat < 0x80 := Nat.lt_of_le_of_lt range.2 (by decide)
  exact forall_ascii (fun c => c.isDigit = true → isSmallAscii c = false) (by decide) c ascii digit

theorem camelTail_digit (raise : Bool) (c : Char) (rest : List Char) (digit : c.isDigit = true) :
    camelTail raise (c :: rest) = c :: camelTail true rest := by
  have unmarked : c ≠ '_' := by
    rintro rfl
    cases digit
  simp [camelTail, not_small_of_isDigit c digit, unmarked, digit]

theorem camelTail_kept (raise : Bool) (c : Char) (rest : List Char)
    (unsmall : isSmallAscii c = false) (undigit : c.isDigit = false)
    (kept : c = '_' → rest.head?.any isSmallAscii = false) :
    camelTail raise (c :: rest) = c :: camelTail false rest := by
  have same := toUpper_of_unsmall c unsmall
  by_cases mark : c = '_'
  · simp [camelTail, unsmall, undigit, same, kept mark]
  · simp [camelTail, unsmall, undigit, same, mark]

/-- Where no small letter stands in front, it does not matter whether one would be raised. -/
theorem camelTail_of_unsmall (raise other : Bool) (text : List Char)
    (unsmall : text.head?.any isSmallAscii = false) :
    camelTail raise text = camelTail other text := by
  cases text with
  | nil => rfl
  | cons c rest =>
      have plain : isSmallAscii c = false := by simpa using unsmall
      simp [camelTail, plain]

theorem head?_camelTail_raised (text : List Char) :
    (camelTail true text).head?.any isSmallAscii = false := by
  induction text with
  | nil => rfl
  | cons c rest ih =>
      rw [camelTail, if_neg (by simp)]
      split
      · exact ih
      split
      · next digit => simpa using not_small_of_isDigit c digit
      · simpa using unsmall_toUpper c

theorem camelTail_camelTail (raise : Bool) (text : List Char) :
    camelTail raise (camelTail raise text) = camelTail raise text := by
  induction text generalizing raise with
  | nil => rfl
  | cons c rest ih =>
      by_cases small : (!raise && isSmallAscii c) = true
      · rw [camelTail, if_pos small, camelTail, if_pos small, ih]
      by_cases dropped : (c = '_' && rest.head?.any isSmallAscii) = true
      · rw [camelTail, if_neg small, if_pos dropped,
          camelTail_of_unsmall raise true _ (head?_camelTail_raised rest), ih]
      by_cases digit : c.isDigit = true
      · rw [camelTail_digit raise c rest digit, camelTail_digit raise c _ digit, ih]
      rw [camelTail, if_neg small, if_neg dropped, if_neg digit]
      by_cases raised : isSmallAscii c = true
      · rw [camelTail_capital raise _ _ (isCapital_toUpper c raised), ih]
      · have unsmall : isSmallAscii c = false := by simpa using raised
        rw [toUpper_of_unsmall c unsmall,
          camelTail_kept raise c _ unsmall (by simpa using digit), ih]
        -- An underscore was kept because no small letter follows, and none comes to follow it.
        intro mark
        have behind : rest.head?.any isSmallAscii = false := by simpa [mark] using dropped
        rw [camelTail_of_unsmall false true rest behind]
        exact head?_camelTail_raised rest

theorem head?_camelTail_ne_mark (text : List Char) (unmarked : text.head? ≠ some '_') :
    (camelTail true text).head? ≠ some '_' := by
  cases text with
  | nil => simp [camelTail]
  | cons c rest =>
      have plain : c ≠ '_' := by simpa using unmarked
      rw [camelTail, if_neg (by simp), if_neg (by simp [plain])]
      split
      · simpa using plain
      · by_cases small : isSmallAscii c = true
        · simpa using (isCapital_toUpper c small).unmarked
        · simpa [toUpper_of_unsmall c (by simpa using small)] using plain

theorem camelChars_camelChars (text : List Char) :
    camelChars (camelChars text) = camelChars text := by
  by_cases marked : text.head? = some '_'
  · obtain ⟨rest, rfl⟩ : ∃ rest, text = '_' :: rest := by
      cases text with
      | nil => cases marked
      | cons c rest => exact ⟨rest, by simpa using marked⟩
    have capital := isCapital_of_isUpper 'X' (by decide)
    rw [camelChars, camelChars_of_unmarked _ (by simp), camelTail_capital true 'X' _ capital,
      camelTail_of_unsmall false true _ (head?_camelTail_raised rest), camelTail_camelTail]
  · rw [camelChars_of_unmarked text marked,
      camelChars_of_unmarked _ (head?_camelTail_ne_mark text marked), camelTail_camelTail]

theorem camel_camel (name : String) : camel (camel name) = camel name := by
  rw [camel, camel, String.toList_ofList, camelChars_camelChars]

/-! LowerCamel -/

theorem lowCamelHead_settled (first : List Char) :
    ∃ c rest, lowCamelHead first = c :: rest ∧ IsSettled c := by
  have x : IsSettled 'x' := ⟨by decide, by decide⟩
  cases first with
  | nil => exact ⟨'x', [], rfl, x⟩
  | cons c rest =>
      by_cases letter : isAlphabetic c = true
      · obtain ⟨small, more, spelled, settled⟩ := lowered_settled c letter
        exact ⟨small, more ++ rest, by simp [lowCamelHead, letter, spelled], settled⟩
      · exact ⟨'x', lowered c ++ rest, by simp [lowCamelHead, letter], x⟩

theorem mark_not_mem_lowCamelHead (first : List Char) (unmarked : '_' ∉ first) :
    '_' ∉ lowCamelHead first := by
  cases first with
  | nil => decide
  | cons c rest =>
      rw [List.mem_cons, not_or] at unmarked
      have small := mark_not_mem_lowered c (Ne.symm unmarked.1)
      rw [lowCamelHead]
      split <;> simp [small, unmarked.2]

theorem mark_not_mem_capitalized (piece : List Char) (unmarked : '_' ∉ piece) :
    '_' ∉ capitalized piece := by
  cases piece with
  | nil => exact unmarked
  | cons c rest =>
      rw [List.mem_cons, not_or] at unmarked
      simp [capitalized, mark_not_mem_raised c (Ne.symm unmarked.1), unmarked.2]

/-- The lowerCamel form is one piece, whose first character is a settled letter. -/
theorem lowCamelChars_cases (name : List Char) : '_' ∉ lowCamelChars name ∧
    ∃ c rest, lowCamelChars name = c :: rest ∧ IsSettled c := by
  have clean := mark_not_mem_pieces '_' name
  rw [lowCamelChars]
  split
  · next none => exact absurd none (pieces_ne_nil '_' name)
  · next first later split =>
      rw [split] at clean
      obtain ⟨c, rest, head, settled⟩ := lowCamelHead_settled first
      constructor
      · rw [List.mem_append, List.mem_flatMap]
        rintro (ahead | ⟨piece, member, behind⟩)
        · exact mark_not_mem_lowCamelHead first (clean first List.mem_cons_self) ahead
        · exact mark_not_mem_capitalized piece (clean piece (List.mem_cons_of_mem _ member)) behind
      · exact ⟨c, rest ++ later.flatMap capitalized, by rw [head]; rfl, settled⟩

theorem lowCamel_lowCamel (name : String) : lowCamel (lowCamel name) = lowCamel name := by
  obtain ⟨unmarked, c, rest, spelled, settled⟩ := lowCamelChars_cases name.toList
  rw [lowCamel, lowCamel, String.toList_ofList]
  congr 1
  rw [spelled] at unmarked ⊢
  simp [lowCamelChars, pieces_of_unmarked '_' _ unmarked, lowCamelHead, settled.letter,
    settled.small]

/-! LowerSnake -/

def IsAscii (text : List Char) : Prop := ∀ c ∈ text, c.toNat < 0x80

instance (text : List Char) : Decidable (IsAscii text) := List.decidableBAll _ text

theorem isUppercase_eq_isUpper (c : Char) (ascii : c.toNat < 0x80) : isUppercase c = c.isUpper := by
  rw [isUppercase, if_pos ascii]

theorem snakeFrom_of_no_capital (previous : Option Char) (text : List Char)
    (plain : ∀ c ∈ text, isUppercase c = false) : snakeFrom previous text = text := by
  induction text generalizing previous with
  | nil => rfl
  | cons c rest ih =>
      rw [List.forall_mem_cons] at plain
      rw [snakeFrom, plain.1, ih (some c) plain.2]
      rfl

/-- Each character is lowered, and an underscore may come in front of it. -/
theorem snakeFrom_cons (previous : Option Char) (c : Char) (rest : List Char)
    (ascii : c.toNat < 0x80) :
    snakeFrom previous (c :: rest) = c.toLower :: snakeFrom (some c) rest ∨
    snakeFrom previous (c :: rest) = '_' :: c.toLower :: snakeFrom (some c) rest := by
  rw [snakeFrom, isUppercase_eq_isUpper c ascii, lowered, if_pos ascii]
  split
  · split
    · exact .inr rfl
    · exact .inl rfl
  · next uncapital =>
      have same : c.toLower = c := forall_ascii (fun c => c.isUpper = false → c.toLower = c)
        (by decide) c ascii (by simpa using uncapital)
      exact .inl (by rw [same])

/-- What holds of underscores and of every lowered character holds of the whole form. -/
theorem forall_mem_snakeFrom (holds : Char → Prop) (mark : holds '_') (previous : Option Char)
    (text : List Char) (ascii : IsAscii text) (small : ∀ c ∈ text, holds c.toLower) :
    ∀ c ∈ snakeFrom previous text, holds c := by
  induction text generalizing previous with
  | nil => simp [snakeFrom]
  | cons c rest ih =>
      rw [IsAscii, List.forall_mem_cons] at ascii
      rw [List.forall_mem_cons] at small
      have behind := ih (some c) ascii.2 small.2
      rcases snakeFrom_cons previous c rest ascii.1 with same | marked
      · rw [same, List.forall_mem_cons]
        exact ⟨small.1, behind⟩
      · rw [marked, List.forall_mem_cons, List.forall_mem_cons]
        exact ⟨mark, small.1, behind⟩

theorem snakeFrom_no_capital (previous : Option Char) (text : List Char) (ascii : IsAscii text) :
    ∀ c ∈ snakeFrom previous text, isUppercase c = false := by
  refine forall_mem_snakeFrom _ (by decide) previous text ascii fun c member => ?_
  exact forall_ascii (fun c => isUppercase c.toLower = false) (by decide) c (ascii c member)

def withoutMarks (text : List Char) : List Char := text.filter (· ≠ '_')

theorem withoutMarks_snakeFrom (previous : Option Char) (text : List Char) (ascii : IsAscii text) :
    withoutMarks (snakeFrom previous text) = withoutMarks (text.map Char.toLower) := by
  induction text generalizing previous with
  | nil => rfl
  | cons c rest ih =>
      rw [IsAscii, List.forall_mem_cons] at ascii
      have behind := ih (some c) ascii.2
      rw [withoutMarks, withoutMarks] at behind
      rcases snakeFrom_cons previous c rest ascii.1 with same | marked
      · rw [same, withoutMarks, withoutMarks, List.map_cons, List.filter_cons, List.filter_cons,
          behind]
      · rw [marked, withoutMarks, withoutMarks, List.map_cons, List.filter_cons, List.filter_cons,
          List.filter_cons, behind]
        rfl

theorem snake_eq_self_iff (name : String) (ascii : IsAscii name.toList) :
    snake name = name ↔ ∀ c ∈ name.toList, c.isUpper = false := by
  constructor
  · intro same c member
    rw [← isUppercase_eq_isUpper c (ascii c member)]
    apply snakeFrom_no_capital none name.toList ascii
    rw [← same] at member
    rwa [snake, String.toList_ofList] at member
  · intro plain
    rw [snake, snakeFrom_of_no_capital none, String.ofList_toList]
    intro c member
    rw [isUppercase_eq_isUpper c (ascii c member), plain c member]

theorem snake_snake (name : String) (ascii : IsAscii name.toList) :
    snake (snake name) = snake name := by
  rw [snake, snake, String.toList_ofList,
    snakeFrom_of_no_capital none _ (snakeFrom_no_capital none name.toList ascii)]

/-- Every spelling of a name is its own spelling; the lower_snake form of an ASCII name differs
from the name in capitals and underscores only. -/
theorem spellings_are_normal_forms (name : String) :
    camel (camel name) = camel name ∧ lowCamel (lowCamel name) = lowCamel name ∧
    (IsAscii name.toList →
      (snake name = name ↔ ∀ c ∈ name.toList, c.isUpper = false) ∧
      snake (snake name) = snake name ∧
      withoutMarks (snake name).toList = withoutMarks name.toLower.toList) := by
  refine ⟨camel_camel name, lowCamel_lowCamel name, fun ascii => ?_⟩
  refine ⟨snake_eq_self_iff name ascii, snake_snake name ascii, ?_⟩
  rw [snake, String.toList_ofList, withoutMarks_snakeFrom none _ ascii,
    show name.toLower = name.map Char.toLower from rfl,
    String.toList_map]

/-- Two capitals in a row, and a digit behind an underscore. -/
theorem httpCode_normal_forms :
    IsAscii "HTTPCode_2X".toList ∧ snake "HTTPCode_2X" = "httpcode_2_x" ∧
    snake "httpcode_2_x" = "httpcode_2_x" ∧
    withoutMarks "httpcode_2_x".toList = withoutMarks "HTTPCode_2X".toLower.toList := by
  have ascii : IsAscii "HTTPCode_2X".toList := by decide +kernel
  have spelled : snake "HTTPCode_2X" = "httpcode_2_x" := by decide +kernel
  obtain ⟨_, _, forms⟩ := spellings_are_normal_forms "HTTPCode_2X"
  obtain ⟨_, again, letters⟩ := forms ascii
  rw [spelled] at again letters
  exact ⟨ascii, spelled, again, letters⟩

end HttpBinding.Identifier
