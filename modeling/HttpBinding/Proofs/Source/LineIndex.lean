import HttpBinding.Proofs.Source.Position
import HttpBinding.Source.LineIndex
import Mathlib.Data.List.Induction
import Mathlib.Data.String.Basic

/-!
The table of lines leads from every position to the place that counting characters leads to,
and from the position of a place back to it. It cuts out what the excerpts of a text cut out.
-/
namespace HttpBinding.Source

open String (utf8Len)

namespace Position

/-- The position behind a text: lines end with a line feed, columns count characters. -/
def behind (front : String) : Position :=
  ⟨front.toList.count '\n' + 1, (front.toList.reverse.takeWhile (· ≠ '\n')).length⟩

theorem foldl_step_first (front : List Char) : front.foldl step first
    = ⟨front.count '\n' + 1, (front.reverse.takeWhile (· ≠ '\n')).length⟩ := by
  induction front using List.reverseRecOn with
  | nil => rfl
  | append_singleton front c ih =>
      rw [List.foldl_append, ih, List.foldl_cons, List.foldl_nil, step, List.count_append,
        List.reverse_append, List.reverse_singleton, List.singleton_append]
      by_cases feed : c = '\n'
      · simp [feed]
      · simp [feed]

theorem ofOffset_front (front back : List Char) :
    ofOffset (front ++ back) front.length = behind (String.ofList front) := by
  rw [ofOffset, List.take_left, foldl_step_first, behind, String.toList_ofList]

theorem lineStart?_le (count start : Nat) (text : List Char)
    (found : lineStart? count text = some start) : start ≤ text.length := by
  induction text generalizing count start with
  | nil =>
      cases count with
      | zero => cases found; exact Nat.le_refl 0
      | succ count => cases found
  | cons c rest ih =>
      cases count with
      | zero => cases found; exact Nat.zero_le _
      | succ count =>
          obtain ⟨before, further, rfl⟩ := Option.map_eq_some_iff.mp found
          exact Nat.succ_le_succ (ih _ before further)

theorem toOffset_le (position : Position) (text : List Char) :
    position.toOffset text ≤ text.length := by
  rw [toOffset]
  split
  · exact Nat.min_le_right _ _
  · exact Nat.le_refl _

/-- A place behind `front` is reached again, whatever follows. -/
theorem toOffset_behind (front back : String) :
    (behind front).toOffset (front ++ back).toList = front.toList.length := by
  have reached := toOffset_ofOffset (front.toList ++ back.toList) front.toList.length
  rw [ofOffset_front, String.ofList_toList] at reached
  rw [String.toList_append, reached, List.length_append]
  exact Nat.min_eq_left (Nat.le_add_right _ _)

end Position

namespace LineIndex

theorem startsBehind_get? (offset count : Nat) (text : List Char) :
    (startsBehind offset text)[count]? =
      (Position.lineStart? (count + 1) text).map fun start =>
        offset + utf8Len (text.take start) := by
  induction text generalizing offset count with
  | nil => rfl
  | cons c rest ih =>
      rw [startsBehind, Position.lineStart?, Option.map_map]
      have passed : ∀ start, offset + utf8Len ((c :: rest).take (start + 1))
          = offset + c.utf8Size + utf8Len (rest.take start) := by
        intro start
        rw [List.take_succ_cons, String.utf8Len_cons]
        omega
      by_cases feed : c = '\n'
      · rw [if_pos feed, if_pos feed]
        cases count with
        | zero => simp [Position.lineStart?]
        | succ count =>
            rw [List.getElem?_cons_succ, ih]
            exact Option.map_congr fun start _ => (passed start).symm
      · rw [if_neg feed, if_neg feed, ih]
        exact Option.map_congr fun start _ => (passed start).symm

theorem starts_get? (text : String) (count : Nat) :
    (ofText text).starts[count]? =
      (Position.lineStart? count text.toList).map fun start =>
        utf8Len (text.toList.take start) := by
  cases count with
  | zero => simp [ofText, Position.lineStart?]
  | succ count => simp [ofText, startsBehind_get?]

theorem charsFrom?_take (count : Nat) (text : List Char) :
    charsFrom? (utf8Len (text.take count)) text = some (text.drop count) := by
  induction text generalizing count with
  | nil => simp [charsFrom?]
  | cons c rest ih =>
      cases count with
      | zero => rfl
      | succ count =>
          have wide : 0 < c.utf8Size := c.utf8Size_pos
          rw [List.take_succ_cons, String.utf8Len_cons, charsFrom?, if_neg (by omega),
            if_pos (by omega), Nat.add_sub_cancel, ih, List.drop_succ_cons]

/-- The table leads where counting characters does, and never into a character. -/
theorem offset?_eq (text : String) (position : Position) :
    (ofText text).offset? position
      = some (utf8Len (text.toList.take (position.toOffset text.toList))) := by
  have whole : utf8Len (text.toList.take text.toList.length) = text.utf8ByteSize := by
    rw [List.take_length, String.utf8Len_toList]
  rw [offset?, starts_get?, Position.toOffset, show (ofText text).text = text from rfl]
  cases found : Position.lineStart? (position.line - 1) text.toList with
  | none => exact congrArg some whole.symm
  | some start =>
      simp only [Option.map_some, charsFrom?_take]
      rw [List.length_drop]
      by_cases inside : position.column < text.toList.length - start
      · rw [if_pos inside, Nat.min_eq_left (by omega), List.take_add, String.utf8Len_append,
          String.utf8ByteSize_ofList]
      · have started := Position.lineStart?_le _ start _ found
        rw [if_neg inside, Nat.min_eq_right (by omega), whole]

/-- The last line has two octets in one character and no line feed. -/
example : (ofText "é\nü").offset? ⟨2, 1⟩ = some 5 := by decide

theorem utf8Len_take_le_iff {first last : Nat} (text : List Char) (inside : first ≤ text.length) :
    utf8Len (text.take first) ≤ utf8Len (text.take last) ↔ first ≤ last := by
  constructor
  · intro shorter
    by_contra behind
    have split : text.take first = text.take last ++ (text.drop last).take (first - last) := by
      rw [← List.take_add]
      congr 1
      omega
    rw [split, String.utf8Len_append] at shorter
    have nothing : (text.drop last).take (first - last) = [] :=
      String.utf8Len_eq_zero.mp (by omega)
    have counted := congrArg List.length nothing
    simp only [List.length_take, List.length_drop, List.length_nil] at counted
    omega
  · intro before
    exact String.utf8Len_le_of_sublist (List.take_sublist_take_left before)

theorem between?_take {first last : Nat} (text : String) (inside : first ≤ text.toList.length) :
    between? text (utf8Len (text.toList.take first)) (utf8Len (text.toList.take last)) =
      if first ≤ last then some (String.ofList ((text.toList.drop first).take (last - first)))
      else none := by
  rw [between?, charsFrom?_take, charsFrom?_take, Option.bind_some, Option.bind_some,
    if_congr (utf8Len_take_le_iff text.toList inside) rfl rfl]
  have cut : (text.toList.drop first).take
        ((text.toList.drop first).length - (text.toList.drop last).length)
      = (text.toList.drop first).take (last - first) := by
    rw [List.take_eq_take_iff, List.length_drop, List.length_drop]
    omega
  rw [cut]

/-- A slice is what counting characters cuts out, and there is none only if the two
positions are out of order. -/
theorem slice?_eq (text : String) (start stop : Position) :
    (ofText text).slice? start stop =
      if start.toOffset text.toList ≤ stop.toOffset text.toList
      then some (String.ofList (slice text.toList start stop)) else none := by
  rw [slice?, offset?_eq, offset?_eq, Option.bind_some, Option.bind_some]
  exact between?_take text (Position.toOffset_le start text.toList)

/-- Every place of a text is reached again from the position behind what stands in front of it,
by octets as by characters, and two places cut out what stands between them. The places are all
those there are: `middle` and `back` may be empty, and lines may end in any way. -/
theorem lineIndex_inverts_positions (front middle back : String) :
    let text := front ++ (middle ++ back)
    let start := Position.behind front
    let stop := Position.behind (front ++ middle)
    (ofText text).offset? start = some front.utf8ByteSize ∧
    start.toOffset text.toList = front.toList.length ∧
    (ofText text).slice? start stop = some middle ∧
    slice text.toList start stop = middle.toList := by
  intro text start stop
  have begun : start.toOffset text.toList = front.toList.length :=
    Position.toOffset_behind front (middle ++ back)
  have ended : stop.toOffset text.toList = front.toList.length + middle.toList.length := by
    rw [show text = front ++ middle ++ back from String.append_assoc.symm,
      Position.toOffset_behind, String.toList_append, List.length_append]
  have parts : text.toList = front.toList ++ (middle.toList ++ back.toList) := by
    rw [String.toList_append, String.toList_append]
  have cut : slice text.toList start stop = middle.toList := by
    rw [slice, begun, ended, Nat.add_sub_cancel_left, parts, List.drop_left, List.take_left]
  refine ⟨?_, begun, ?_, cut⟩
  · rw [offset?_eq, begun, parts, List.take_left, String.utf8Len_toList]
  · rw [slice?_eq, begun, ended, cut, String.ofList_toList, if_pos (Nat.le_add_right _ _)]

end LineIndex

end HttpBinding.Source
