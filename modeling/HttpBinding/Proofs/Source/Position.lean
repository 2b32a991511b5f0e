import HttpBinding.Source.Position
import Mathlib.Data.List.TakeDrop

/-!
Lines and columns name places. The position behind a number of characters leads back to
that number, so what stands between two positions is what stands between the numbers.
-/
namespace HttpBinding.Source.Position

/-- Counted on from any position, the line either stays the same and the column grows by
what has been passed, or it is a later one, whose start and the column add up to it. -/
theorem foldl_step (text : List Char) (count line column : Nat) (inside : count ≤ text.length) :
    let reached := (text.take count).foldl step ⟨line, column⟩
    (reached.line = line ∧ reached.column = column + count) ∨
    ∃ lines start, reached.line = line + lines + 1 ∧ lineStart? (lines + 1) text = some start ∧
      start + reached.column = count := by
  induction text generalizing count line column with
  | nil =>
      obtain rfl : count = 0 := by simpa using inside
      exact .inl ⟨rfl, rfl⟩
  | cons c rest ih =>
      cases count with
      | zero => exact .inl ⟨rfl, rfl⟩
      | succ count =>
          have fewer : count ≤ rest.length := by simpa using inside
          simp only [List.take_succ_cons, List.foldl_cons, step]
          by_cases feed : c = '\n'
          · rw [if_pos feed]
            rcases ih count (line + 1) 0 fewer with
              ⟨same, passed⟩ | ⟨lines, start, later, starts, sum⟩
            · exact .inr ⟨0, 1, by omega, by simp [lineStart?, feed], by omega⟩
            · refine .inr ⟨lines + 1, start + 1, by omega, ?_, by omega⟩
              simp [lineStart?, feed, starts]
          · rw [if_neg feed]
            rcases ih count line (column + 1) fewer with
              ⟨same, passed⟩ | ⟨lines, start, later, starts, sum⟩
            · exact .inl ⟨same, by omega⟩
            · refine .inr ⟨lines, start + 1, later, ?_, by omega⟩
              rw [lineStart?, if_neg feed, starts]
              rfl

theorem toOffset_ofOffset (text : List Char) (count : Nat) :
    toOffset text (ofOffset text count) = min count text.length := by
  have inside : min count text.length ≤ text.length := Nat.min_le_right _ _
  have whole : text.take count = text.take (min count text.length) := List.take_eq_take_min ..
  rw [ofOffset, whole, first, toOffset]
  rcases foldl_step text (min count text.length) 1 0 inside with
    ⟨same, passed⟩ | ⟨lines, start, later, starts, sum⟩
  · rw [same, passed]
    simp [lineStart?]
  · rw [later, show 1 + lines + 1 - 1 = lines + 1 by omega, starts]
    simp only [sum, Nat.min_eq_left inside]

theorem line_foldl_step (text : List Char) (line column : Nat) :
    (text.foldl step ⟨line, column⟩).line = line + text.count '\n' := by
  induction text generalizing line column with
  | nil => rfl
  | cons c rest ih =>
      rw [List.foldl_cons, step]
      split
      · rename_i feed
        rw [ih, feed, List.count_cons_self, Nat.add_assoc, Nat.add_comm 1]
      · rename_i visible
        rw [ih, List.count_cons_of_ne visible]

/-- With a mark in front of the text, a position on the first line leads to one character
early, since its column does not count the mark; a later line is found where it starts. -/
theorem toOffset_cons_ofOffset (mark : Char) (text : List Char) (count : Nat)
    (inside : count ≤ text.length) (visible : mark ≠ '\n') :
    toOffset (mark :: text) (ofOffset text count)
      = if '\n' ∈ text.take count then count + 1 else count := by
  have line := line_foldl_step (text.take count) 1 0
  rw [ofOffset, first, toOffset]
  rcases foldl_step text count 1 0 inside with ⟨same, passed⟩ | ⟨lines, start, later, starts, sum⟩
  · have unbroken : '\n' ∉ text.take count := List.count_eq_zero.mp (by omega)
    rw [same, passed, if_neg unbroken, show lineStart? (1 - 1) (mark :: text) = some 0 from rfl]
    simp only [List.length_cons]
    omega
  · have broken : '\n' ∈ text.take count := List.count_pos_iff.mp (by omega)
    rw [later, show 1 + lines + 1 - 1 = lines + 1 by omega, if_pos broken, lineStart?,
      if_neg visible, starts]
    simp only [Option.map_some, List.length_cons]
    omega

end HttpBinding.Source.Position

namespace HttpBinding.Source

theorem slice_ofOffset (text : List Char) (start stop : Nat) :
    slice text (.ofOffset text start) (.ofOffset text stop)
      = (text.drop start).take (stop - start) := by
  rw [slice, Position.toOffset_ofOffset, Position.toOffset_ofOffset, ← List.drop_eq_drop_min,
    List.take_eq_take_iff, List.length_drop]
  omega

end HttpBinding.Source
