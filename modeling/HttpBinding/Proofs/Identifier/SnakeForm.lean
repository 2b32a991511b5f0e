import HttpBinding.Identifier.Spelling

/-!
What the lower_snake form of a name keeps. Where each capital starts the name or follows
a small letter or a digit, the underscore and the small letter that stand for it are
raised to the same capital again: the CamelCase form is a function of the lower_snake
form. Of two capitals in a row, the second leaves no trace.
-/
namespace HttpBinding.Identifier

open Text

/-- Every capital is one of A to Z and stands at the start, or behind a small letter or
a digit. -/
def CapitalsApart : Option Char → List Char → Prop
  | _, [] => True
  | previous, c :: rest =>
      (isUppercase c = true → c.isUpper = true ∧
        ∀ p ∈ previous, (isLowercase p || p.isDigit) = true) ∧ CapitalsApart (some c) rest

instance decidableCapitalsApart :
    (previous : Option Char) → (text : List Char) → Decidable (CapitalsApart previous text)
  | _, [] => isTrue trivial
  | _, c :: rest =>
      have := decidableCapitalsApart (some c) rest
      inferInstanceAs (Decidable ((_ → _ ∧ ∀ _ ∈ _, _) ∧ _))

/-- How a capital from A to Z and its small letter are told from other characters. -/
structure IsCapital (c : Char) : Prop where
  lowered : lowered c = [c.toLower]
  raised : c.toLower.toUpper = c
  small : isSmallAscii c.toLower = true
  smallUndigit : c.toLower.isDigit = false
  smallUnmarked : c.toLower ≠ '_'
  kept : c.toUpper = c
  unsmall : isSmallAscii c = false
  undigit : c.isDigit = false
  unmarked : c ≠ '_'

theorem isCapital_of_isUpper (c : Char) (upper : c.isUpper = true) : IsCapital c := by
  have within : 65 ≤ c.toNat ∧ c.toNat ≤ 90 := by
    have range : c.val ≥ 'A'.val ∧ c.val ≤ 'Z'.val := of_decide_eq_true upper
    simpa [UInt32.le_iff_toNat_le, ← Char.toNat_val] using range
  have each : ∀ position : Fin 26, IsCapital (Char.ofNat (65 + position)) := by
    intro position
    constructor <;> revert position <;> decide
  have found := each ⟨c.toNat - 65, by omega⟩
  rwa [Nat.add_sub_cancel' within.1, Char.ofNat_toNat] at found

theorem camelTail_capital (raise : Bool) (c : Char) (rest : List Char) (capital : IsCapital c) :
    camelTail raise (c :: rest) = c :: camelTail false rest := by
  simp [camelTail, capital.unsmall, capital.unmarked, capital.undigit, capital.kept]

theorem camelTail_lowered (c : Char) (rest : List Char) (capital : IsCapital c) :
    camelTail true (c.toLower :: rest) = c :: camelTail false rest := by
  simp [camelTail, capital.smallUnmarked, capital.smallUndigit, capital.raised]

theorem camelTail_mark_lowered (raise : Bool) (c : Char) (rest : List Char)
    (capital : IsCapital c) :
    camelTail raise ('_' :: c.toLower :: rest) = c :: camelTail false rest := by
  have unsmall : isSmallAscii '_' = false := by decide
  rw [camelTail, if_neg (by simp [unsmall]), if_pos (by simp [capital.small]),
    camelTail_lowered c rest capital]

/-- A character that is no capital is raised, dropped or kept for itself and the next one,
which stays small in front of a capital only behind a letter or a digit. -/
theorem camelTail_cons_congr (raise : Bool) (c : Char) (first second : List Char)
    (next : c = '_' → first.head?.any isSmallAscii = second.head?.any isSmallAscii)
    (rest : ∀ raise, camelTail raise first = camelTail raise second) :
    camelTail raise (c :: first) = camelTail raise (c :: second) := by
  by_cases mark : c = '_'
  · subst mark
    simp only [camelTail, next rfl, rest]
  · simp only [camelTail, mark, rest]
    simp

theorem head?_snakeFrom_of_mark (rest : List Char) (apart : CapitalsApart (some '_') rest) :
    (snakeFrom (some '_') rest).head? = rest.head? := by
  cases rest with
  | nil => rfl
  | cons c rest =>
      have plain : ¬ isUppercase c = true := by
        intro upper
        have wrong := (apart.1 upper).2 '_' rfl
        revert wrong
        decide
      simp [snakeFrom, plain]

-- Behind the first character the CamelCase form does not see the lower_snake form.
theorem camelTail_snakeFrom (previous : Option Char) (raise : Bool) (text : List Char)
    (apart : CapitalsApart previous text) (start : previous = none → raise = true) :
    camelTail raise (snakeFrom previous text) = camelTail raise text := by
  induction text generalizing previous raise with
  | nil => rfl
  | cons c rest ih =>
      have behind := fun raise => ih (some c) raise apart.2 (by simp)
      by_cases upper : isUppercase c = true
      · obtain ⟨ascii, preceded⟩ := apart.1 upper
        have capital := isCapital_of_isUpper c ascii
        rw [snakeFrom, if_pos upper, capital.lowered, camelTail_capital raise c rest capital]
        cases previous with
        | none =>
            simp only [Option.any_none, Bool.false_eq_true, ↓reduceIte, List.nil_append,
              List.singleton_append, start rfl]
            rw [camelTail_lowered c _ capital, behind]
        | some p =>
            simp only [Option.any_some, preceded p rfl, ↓reduceIte, List.cons_append,
              List.nil_append]
            rw [camelTail_mark_lowered raise c _ capital, behind]
      · rw [snakeFrom, if_neg upper]
        refine camelTail_cons_congr raise c _ _ ?_ behind
        rintro rfl
        rw [head?_snakeFrom_of_mark rest apart.2]

theorem camelChars_of_unmarked (text : List Char) (unmarked : text.head? ≠ some '_') :
    camelChars text = camelTail true text := by
  rw [camelChars]
  rintro rest rfl
  exact unmarked rfl

theorem head?_snakeFrom_unmarked (c : Char) (rest : List Char) (unmarked : c ≠ '_')
    (apart : CapitalsApart none (c :: rest)) :
    (snakeFrom none (c :: rest)).head? ≠ some '_' := by
  by_cases upper : isUppercase c = true
  · have capital := isCapital_of_isUpper c (apart.1 upper).1
    simp [snakeFrom, upper, capital.lowered, capital.smallUnmarked]
  · simp [snakeFrom, upper, unmarked]

theorem camel_snake (name : String) (apart : CapitalsApart none name.toList) :
    camel (snake name) = camel name := by
  rw [camel, camel, snake, String.toList_ofList]
  congr 1
  cases text : name.toList with
  | nil => rfl
  | cons c rest =>
      rw [text] at apart
      by_cases mark : c = '_'
      · subst mark
        have behind := camelTail_snakeFrom (some '_') true rest apart.2 (by simp)
        rw [snakeFrom, if_neg (by decide), camelChars, camelChars, behind]
      · rw [camelChars_of_unmarked _ (head?_snakeFrom_unmarked c rest mark apart),
          camelChars_of_unmarked _ (by simpa using mark)]
        exact camelTail_snakeFrom none true (c :: rest) apart (fun _ => rfl)

theorem camel_eq_of_snake_eq (first second : String)
    (firstApart : CapitalsApart none first.toList) (secondApart : CapitalsApart none second.toList)
    (same : snake first = snake second) : camel first = camel second := by
  rw [← camel_snake first firstApart, same, camel_snake second secondApart]

end HttpBinding.Identifier
