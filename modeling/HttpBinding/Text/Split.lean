/-!
Splitting a text at every occurrence of a mark. Joining the pieces with the same
mark gives the text back.
-/
namespace HttpBinding.Text

/-- The pieces of a text between the occurrences of `mark`; there is always one. -/
def pieces (mark : Char) : List Char → List (List Char)
  | [] => [[]]
  | c :: rest =>
      if c = mark then [] :: pieces mark rest
      else match pieces mark rest with
        | [] => [[c]]
        | piece :: more => (c :: piece) :: more

def joined (mark : Char) : List (List Char) → List Char
  | [] => []
  | [piece] => piece
  | piece :: more => piece ++ mark :: joined mark more

theorem pieces_ne_nil (mark : Char) (text : List Char) : pieces mark text ≠ [] := by
  cases text with
  | nil => simp [pieces]
  | cons c rest =>
      unfold pieces
      split
      · simp
      · split <;> simp

theorem joined_nil_cons (mark : Char) (rest : List (List Char)) (nonempty : rest ≠ []) :
    joined mark ([] :: rest) = mark :: joined mark rest := by
  cases rest with
  | nil => exact absurd rfl nonempty
  | cons piece more => rfl

theorem joined_extend (mark c : Char) (piece : List Char) (more : List (List Char)) :
    joined mark ((c :: piece) :: more) = c :: joined mark (piece :: more) := by
  cases more <;> rfl

theorem joined_pieces (mark : Char) (text : List Char) :
    joined mark (pieces mark text) = text := by
  induction text with
  | nil => rfl
  | cons c rest ih =>
      unfold pieces
      split
      · next same =>
          rw [joined_nil_cons mark _ (pieces_ne_nil mark rest), ih, same]
      · split
        · next none => exact absurd none (pieces_ne_nil mark rest)
        · next piece more split => rw [joined_extend, ← split, ih]

def split (mark : Char) (text : String) : List String :=
  (pieces mark text.toList).map String.ofList

end HttpBinding.Text
