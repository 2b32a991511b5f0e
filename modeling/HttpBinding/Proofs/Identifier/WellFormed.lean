import HttpBinding.Proofs.Identifier.NormalForm
import HttpBinding.Proofs.Identifier.Ordinal

/-!
Spellings of an identifier are identifiers. Each spelling starts with a letter of its own
case, whatever underscores and digits stand where in the name; only the lower_snake form may
start with an underscore or a digit, as it is no name in generated code.
-/
namespace HttpBinding.Identifier

open Text

/-- A letter, a digit or an underscore, all of them in ASCII. -/
def isWordChar (c : Char) : Bool := c.isAlphanum || c = '_'

def isSmallWordChar (c : Char) : Bool := c.isLower || c.isDigit || c = '_'

/-- A text that is not empty, of a first character of one kind and others of another. -/
def Consists (first later : Char → Bool) (text : List Char) : Prop :=
  ∃ c rest, text = c :: rest ∧ first c = true ∧ ∀ d ∈ rest, later d = true

theorem consists_cons_iff (first later : Char → Bool) (c : Char) (rest : List Char) :
    Consists first later (c :: rest) ↔ first c = true ∧ rest.all later = true := by
  simp [Consists, and_assoc]

instance (first later : Char → Bool) : (text : List Char) → Decidable (Consists first later text)
  | [] => isFalse (by simp [Consists])
  | c :: rest => decidable_of_iff _ (consists_cons_iff first later c rest).symm

def IsIdentifier (name : String) : Prop :=
  Consists (fun c => c.isAlpha || c = '_') isWordChar name.toList

instance (name : String) : Decidable (IsIdentifier name) :=
  inferInstanceAs (Decidable (Consists _ _ _))

theorem Consists.append (first later : Char → Bool) (text more : List Char)
    (start : Consists first later text) (behind : ∀ c ∈ more, later c = true) :
    Consists first later (text ++ more) := by
  obtain ⟨c, rest, rfl, head, others⟩ := start
  exact ⟨c, rest ++ more, rfl, head, List.forall_mem_append.mpr ⟨others, behind⟩⟩

theorem ascii_of_isWordChar (c : Char) (word : isWordChar c = true) : c.toNat < 0x80 := by
  have letters : (((c.isUpper || c.isLower) || c.isDigit) || decide (c = '_')) = true := word
  simp only [Bool.or_eq_true, decide_eq_true_eq] at letters
  rcases letters with ((upper | lower) | digit) | rfl
  · have range : c.val ≥ 'A'.val ∧ c.val ≤ 'Z'.val := of_decide_eq_true upper
    exact Nat.lt_of_le_of_lt range.2 (by decide)
  · have range := ((Bool.and_eq_true ..).mp lower).2
    exact Nat.lt_of_le_of_lt (of_decide_eq_true range) (by decide)
  · exact Nat.lt_of_le_of_lt (Char.isDigit_iff_toNat.mp digit).2 (by decide)
  · decide

/-- What holds of the word characters is checked on their codes. -/
theorem forall_wordChar (holds : Char → Prop)
    (each : ∀ code : Fin 0x80, isWordChar (Char.ofNat code) = true → holds (Char.ofNat code))
    (c : Char) (word : isWordChar c = true) : holds c :=
  forall_ascii (fun c => isWordChar c = true → holds c) each c (ascii_of_isWordChar c word) word

theorem isWordChar_toUpper : ∀ c, isWordChar c = true → isWordChar c.toUpper = true :=
  forall_wordChar _ (by decide)

/-! CamelCase -/

theorem camelTail_words (raise : Bool) (text : List Char)
    (words : ∀ c ∈ text, isWordChar c = true) :
    ∀ c ∈ camelTail raise text, isWordChar c = true := by
  induction text generalizing raise with
  | nil => simp [camelTail]
  | cons c rest ih =>
      rw [List.forall_mem_cons] at words
      have behind := fun raise => ih raise words.2
      rw [camelTail]
      split
      · exact List.forall_mem_cons.mpr ⟨words.1, behind false⟩
      split
      · exact behind true
      split
      · exact List.forall_mem_cons.mpr ⟨words.1, behind true⟩
      · exact List.forall_mem_cons.mpr ⟨isWordChar_toUpper c words.1, behind false⟩

theorem camel_consists (name : String) (identifier : IsIdentifier name) :
    Consists Char.isUpper isWordChar (camel name).toList := by
  obtain ⟨c, rest, spelled, start, words⟩ := identifier
  have behind := fun raise => camelTail_words raise rest words
  rw [camel, String.toList_ofList, spelled]
  by_cases mark : c = '_'
  · subst mark
    exact ⟨'X', camelTail true rest, rfl, by decide, behind true⟩
  · have letter : c.isAlpha = true := by simpa [mark] using start
    have word : isWordChar c = true := by simp [isWordChar, Char.isAlphanum, letter]
    have undigit : c.isDigit = false := forall_wordChar
      (fun c => c.isAlpha = true → c.isDigit = false) (by decide) c word letter
    have raised : c.toUpper.isUpper = true := forall_wordChar
      (fun c => c.isAlpha = true → c.toUpper.isUpper = true) (by decide) c word letter
    rw [camelChars_of_unmarked _ (by simpa using mark), camelTail, if_neg (by simp),
      if_neg (by simp [mark]), if_neg (by simp [undigit])]
    exact ⟨c.toUpper, _, rfl, raised, behind false⟩

/-! LowerCamel -/

theorem isWordChar_of_isAlphanum (c : Char) (plain : c.isAlphanum = true) :
    isWordChar c = true := by
  simp [isWordChar, plain]

theorem lowered_alphanum (c : Char) (plain : c.isAlphanum = true) :
    lowered c = [c.toLower] ∧ c.toLower.isAlphanum = true ∧
      (isAlphabetic c = true → c.toLower.isLower = true) := by
  have word := isWordChar_of_isAlphanum c plain
  have ascii := ascii_of_isWordChar c word
  rw [lowered, if_pos ascii, isAlphabetic, if_pos ascii]
  exact ⟨rfl, forall_wordChar (fun c => c.isAlphanum = true → c.toLower.isAlphanum = true)
    (by decide) c word plain, forall_wordChar
    (fun c => c.isAlpha = true → c.toLower.isLower = true) (by decide) c word⟩

theorem raised_alphanum (c : Char) (plain : c.isAlphanum = true) :
    raised c = [c.toUpper] ∧ c.toUpper.isAlphanum = true := by
  have word := isWordChar_of_isAlphanum c plain
  rw [raised, if_pos (ascii_of_isWordChar c word)]
  exact ⟨rfl, forall_wordChar (fun c => c.isAlphanum = true → c.toUpper.isAlphanum = true)
    (by decide) c word plain⟩

theorem lowCamelHead_consists (first : List Char) (plain : ∀ c ∈ first, c.isAlphanum = true) :
    Consists Char.isLower Char.isAlphanum (lowCamelHead first) := by
  cases first with
  | nil => exact ⟨'x', [], rfl, by decide, by simp⟩
  | cons c rest =>
      rw [List.forall_mem_cons] at plain
      obtain ⟨small, kept, letter⟩ := lowered_alphanum c plain.1
      rw [lowCamelHead, small]
      split
      · next alphabetic => exact ⟨c.toLower, rest, rfl, letter alphabetic, plain.2⟩
      · exact ⟨'x', c.toLower :: rest, rfl, by decide, List.forall_mem_cons.mpr ⟨kept, plain.2⟩⟩

theorem capitalized_alphanum (piece : List Char) (plain : ∀ c ∈ piece, c.isAlphanum = true) :
    ∀ c ∈ capitalized piece, c.isAlphanum = true := by
  cases piece with
  | nil => simp [capitalized]
  | cons c rest =>
      rw [List.forall_mem_cons] at plain
      obtain ⟨capital, kept⟩ := raised_alphanum c plain.1
      rw [capitalized, capital]
      exact List.forall_mem_cons.mpr ⟨kept, plain.2⟩

theorem lowCamel_consists (name : String) (words : ∀ c ∈ name.toList, isWordChar c = true) :
    Consists Char.isLower Char.isAlphanum (lowCamel name).toList := by
  have plain : ∀ piece ∈ pieces '_' name.toList, ∀ c ∈ piece, c.isAlphanum = true := by
    intro piece member c inside
    have word := words c (mem_of_mem_pieces '_' c _ piece member inside)
    have unmarked : c ≠ '_' := by
      rintro rfl
      exact mark_not_mem_pieces '_' _ piece member inside
    simpa [isWordChar, unmarked] using word
  rw [lowCamel, String.toList_ofList, lowCamelChars]
  split
  · next none => exact absurd none (pieces_ne_nil '_' _)
  · next first later split =>
      rw [split, List.forall_mem_cons] at plain
      refine Consists.append _ _ _ _ (lowCamelHead_consists first plain.1) ?_
      rw [List.forall_mem_flatMap]
      exact fun piece member => capitalized_alphanum piece (plain.2 piece member)

/-! LowerSnake -/

theorem snakeFrom_words (previous : Option Char) (text : List Char)
    (words : ∀ c ∈ text, isWordChar c = true) :
    ∀ c ∈ snakeFrom previous text, isSmallWordChar c = true := by
  have ascii : IsAscii text := fun c member => ascii_of_isWordChar c (words c member)
  refine forall_mem_snakeFrom _ (by decide) previous text ascii fun c member => ?_
  exact forall_wordChar (fun c => isSmallWordChar c.toLower = true) (by decide) c (words c member)

theorem words_of_identifier (name : String) (identifier : IsIdentifier name) :
    ∀ c ∈ name.toList, isWordChar c = true := by
  obtain ⟨c, rest, spelled, start, words⟩ := identifier
  rw [spelled, List.forall_mem_cons]
  refine ⟨?_, words⟩
  rcases (Bool.or_eq_true ..).mp start with letter | mark
  · simp [isWordChar, Char.isAlphanum, letter]
  · simp [isWordChar, of_decide_eq_true mark]

theorem snake_consists (name : String) (identifier : IsIdentifier name) :
    Consists isSmallWordChar isSmallWordChar (snake name).toList := by
  have words := words_of_identifier name identifier
  obtain ⟨c, rest, spelled, _⟩ := identifier
  rw [spelled] at words
  have small := snakeFrom_words none (c :: rest) words
  have ascii := ascii_of_isWordChar c (words c List.mem_cons_self)
  rw [snake, String.toList_ofList, spelled]
  rcases snakeFrom_cons none c rest ascii with same | marked
  · rw [same, List.forall_mem_cons] at small
    exact ⟨_, _, same, small⟩
  · rw [marked, List.forall_mem_cons] at small
    exact ⟨_, _, marked, small⟩

/-! Ordinals -/

theorem ordinal_words (n : Nat) : ∀ c ∈ (ordinal n).toList, isWordChar c = true := by
  have each (digit : Nat) : (digitName digit).toList.all isWordChar = true := by
    unfold digitName
    split <;> decide
  rw [toList_ordinal, spelled, List.forall_mem_flatMap]
  exact fun digit _ => List.all_eq_true.mp (each digit)

end HttpBinding.Identifier
