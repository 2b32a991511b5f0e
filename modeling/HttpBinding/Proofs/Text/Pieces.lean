import HttpBinding.Text.Split

/-!
Splitting and joining are inverse. A text is recovered from its pieces, and pieces
without the mark in them are recovered from their join. A mark at the end of a text adds
an empty piece, and nothing else does.
-/
namespace HttpBinding.Text

theorem pieces_eq_splitOn (mark : Char) (text : List Char) :
    pieces mark text = text.splitOn mark := by
  induction text with
  | nil => rfl
  | cons c rest ih =>
      rw [List.splitOn_cons_eq_if_modifyHead, ← ih, pieces]
      by_cases same : c = mark
      · simp [same]
      · have nonempty := pieces_ne_nil mark rest
        cases found : pieces mark rest with
        | nil => exact absurd found nonempty
        | cons piece more => simp [same]

theorem mark_not_mem_pieces (mark : Char) (text piece : List Char)
    (member : piece ∈ pieces mark text) : mark ∉ piece := by
  induction text generalizing piece with
  | nil =>
      have empty : piece = [] := by simpa [pieces] using member
      simp [empty]
  | cons c rest ih =>
      rw [pieces] at member
      split at member
      · rcases List.mem_cons.mp member with rfl | later
        · simp
        · exact ih piece later
      · next differs =>
          split at member
          · next none => exact absurd none (pieces_ne_nil mark rest)
          · next first more found =>
              rcases List.mem_cons.mp member with rfl | later
              · have clean := ih first (found ▸ List.mem_cons_self)
                simp [Ne.symm differs, clean]
              · exact ih piece (found ▸ List.mem_cons_of_mem first later)

theorem mem_of_mem_pieces (mark c : Char) (text piece : List Char)
    (member : piece ∈ pieces mark text) (inside : c ∈ piece) : c ∈ text := by
  rw [← joined_pieces mark text]
  generalize pieces mark text = all at *
  induction all with
  | nil => cases member
  | cons first more ih =>
      cases more with
      | nil => rwa [List.mem_singleton.mp member] at inside
      | cons second rest =>
          change c ∈ first ++ mark :: joined mark (second :: rest)
          rw [List.mem_append, List.mem_cons]
          rcases List.mem_cons.mp member with rfl | later
          · exact .inl inside
          · exact .inr (.inr (ih later))

theorem pieces_of_unmarked (mark : Char) (text : List Char) (unmarked : mark ∉ text) :
    pieces mark text = [text] := by
  induction text with
  | nil => rfl
  | cons c rest ih =>
      rw [List.mem_cons, not_or] at unmarked
      rw [pieces, if_neg (Ne.symm unmarked.1), ih unmarked.2]

theorem split_ne_nil (mark : Char) (text : String) : split mark text ≠ [] := by
  simp [split, pieces_ne_nil]

theorem mark_not_mem_split (mark : Char) (text piece : String)
    (member : piece ∈ split mark text) : mark ∉ piece.toList := by
  obtain ⟨chars, inside, rfl⟩ := List.mem_map.mp member
  simpa using mark_not_mem_pieces mark text.toList chars inside

theorem joined_concat_nil (mark : Char) (front : List (List Char)) (nonempty : front ≠ []) :
    joined mark (front ++ [[]]) = joined mark front ++ [mark] := by
  induction front with
  | nil => exact absurd rfl nonempty
  | cons piece more ih =>
      cases more with
      | nil => rfl
      | cons second rest =>
          have behind := ih (List.cons_ne_nil second rest)
          simp only [List.cons_append, joined, List.append_assoc] at behind ⊢
          rw [behind]

/-- A text with an empty piece at its end is empty or ends in the mark. -/
theorem getLast?_of_pieces (mark : Char) (text : List Char) (several : 1 < (pieces mark text).length)
    (last : (pieces mark text).getLast? = some []) : text.getLast? = some mark := by
  obtain ⟨front, whole⟩ := List.getLast?_eq_some_iff.mp last
  have nonempty : front ≠ [] := by
    rintro rfl
    simp [whole] at several
  rw [← joined_pieces mark text, whole, joined_concat_nil mark front nonempty]
  simp

theorem split_concat_mark (mark : Char) (text : String) :
    split mark (text ++ String.singleton mark) = split mark text ++ [""] := by
  simp only [split, pieces_eq_splitOn, String.toList_append, String.toList_singleton,
    List.splitOn_append_cons_self]
  simp

theorem split_injective (mark : Char) (first second : String)
    (same : split mark first = split mark second) : first = second := by
  have pieced : pieces mark first.toList = pieces mark second.toList :=
    (List.map_inj_right fun _ _ => String.ofList_inj.mp).mp same
  rw [← String.toList_inj, ← joined_pieces mark first.toList, pieced, joined_pieces]

/-- Texts without the mark are the pieces of their join. -/
theorem split_intercalate (mark : Char) (texts : List String) (nonempty : texts ≠ [])
    (clean : ∀ text ∈ texts, mark ∉ text.toList) :
    split mark ((String.singleton mark).intercalate texts) = texts := by
  have cleanChars : ∀ chars ∈ texts.map String.toList, mark ∉ chars := by
    intro chars member
    obtain ⟨text, inside, rfl⟩ := List.mem_map.mp member
    exact clean text inside
  have recovered := List.splitOn_intercalate mark cleanChars (by simpa using nonempty)
  rw [split, pieces_eq_splitOn, String.toList_intercalate, String.toList_singleton, recovered]
  simp

end HttpBinding.Text
