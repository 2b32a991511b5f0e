import HttpBinding.Identifier.Ordinal
import Mathlib.Data.List.Infix
import Mathlib.Data.Nat.Digits.Defs
import Mathlib.Tactic.IntervalCases

/-!
Numbers spelled digit by digit. They are never empty. Inside a longer text they are read
from the end: no digit name ends in another, so a text fixes the digits at its end one by
one, but not where they start. On their own they are read from the front, since no digit
name starts another either, and each of them leads back to its number.
-/
namespace HttpBinding.Identifier

theorem digitName_ne_empty (digit : Nat) : digitName digit ≠ "" := by
  unfold digitName
  split <;> decide

theorem decimalDigits_ne_nil (n : Nat) : decimalDigits n ≠ [] := by
  rw [decimalDigits]
  split <;> simp

theorem ordinal_ne_empty (n : Nat) : ordinal n ≠ "" := by
  cases digits : decimalDigits n with
  | nil => exact absurd digits (decimalDigits_ne_nil n)
  | cons digit rest => simp [ordinal, digits, digitName_ne_empty]

/-- The characters of the digit names, in order. -/
def spelled (digits : List Nat) : List Char := digits.flatMap fun digit => (digitName digit).toList

theorem spelled_append (first second : List Nat) :
    spelled (first ++ second) = spelled first ++ spelled second := by
  simp [spelled]

theorem toList_ordinal (n : Nat) : (ordinal n).toList = spelled (decimalDigits n) := by
  rw [ordinal, String.toList_join, List.flatMap_map, spelled]

theorem decimalDigits_of_lt (n : Nat) (small : n < 10) : decimalDigits n = [n] := by
  rw [decimalDigits, if_pos small]

theorem decimalDigits_lt (n : Nat) : ∀ digit ∈ decimalDigits n, digit < 10 := by
  induction n using decimalDigits.induct with
  | case1 n small =>
      rw [decimalDigits_of_lt n small]
      simpa using small
  | case2 n large ih =>
      rw [decimalDigits, if_neg large]
      intro digit member
      rcases List.mem_append.mp member with front | last
      · exact ih digit front
      · rw [List.mem_singleton.mp last]
        exact Nat.mod_lt n (by decide)

theorem ofDigits_decimalDigits (n : Nat) : Nat.ofDigits 10 (decimalDigits n).reverse = n := by
  induction n using decimalDigits.induct with
  | case1 n small => simp [decimalDigits_of_lt n small]
  | case2 n large ih =>
      rw [decimalDigits, if_neg large, List.reverse_append, List.reverse_singleton,
        List.singleton_append, Nat.ofDigits_cons, ih]
      exact Nat.mod_add_div n 10

theorem decimalDigits_injective : Function.Injective decimalDigits := by
  intro first second same
  rw [← ofDigits_decimalDigits first, same, ofDigits_decimalDigits]

/-- No digit name ends in another. -/
theorem digit_eq_of_suffix (first second : Nat) (small : first < 10) (bounded : second < 10)
    (ends : (digitName first).toList <:+ (digitName second).toList) : first = second := by
  have apart : ∀ first second : Fin 10,
      (digitName first).toList <:+ (digitName second).toList → first = second := by decide
  exact congrArg Fin.val (apart ⟨first, small⟩ ⟨second, bounded⟩ ends)

theorem digit_eq_of_common_suffix (first second : Nat) (small : first < 10)
    (bounded : second < 10) (text : List Char) (ends : (digitName first).toList <:+ text)
    (also : (digitName second).toList <:+ text) : first = second := by
  rcases List.suffix_or_suffix_of_suffix ends also with inside | around
  · exact digit_eq_of_suffix first second small bounded inside
  · exact (digit_eq_of_suffix second first bounded small around).symm

theorem spelled_concat (front : List Nat) (last : Nat) :
    spelled (front ++ [last]) = spelled front ++ (digitName last).toList := by
  simp [spelled]

/-- Texts are read from the end: of two rows of digits that end the same text, one
ends the other, and what it has in front is spelled out in front of the other. -/
theorem spelled_aligned (front back : List Char) (first second : List Nat)
    (small : ∀ digit ∈ first, digit < 10) (bounded : ∀ digit ∈ second, digit < 10)
    (same : front ++ spelled first = back ++ spelled second) :
    (∃ extra, first = extra ++ second ∧ back = front ++ spelled extra) ∨
    (∃ extra, second = extra ++ first ∧ front = back ++ spelled extra) := by
  induction first using List.reverseRecOn generalizing second with
  | nil => exact .inr ⟨second, by simp, by simpa [spelled] using same⟩
  | append_singleton first last ih =>
      rcases List.eq_nil_or_concat' second with rfl | ⟨second, final, rfl⟩
      · exact .inl ⟨first ++ [last], by simp, by simpa [spelled] using same.symm⟩
      · rw [spelled_concat, spelled_concat, ← List.append_assoc, ← List.append_assoc] at same
        have equal : last = final := by
          apply digit_eq_of_common_suffix last final (small last (by simp))
            (bounded final (by simp)) _ (List.suffix_append _ _)
          rw [same]
          exact List.suffix_append _ _
        subst equal
        have shorter := ih second (fun digit member => small digit (by simp [member]))
          (fun digit member => bounded digit (by simp [member])) (List.append_cancel_right same)
        rcases shorter with ⟨extra, rfl, spelt⟩ | ⟨extra, rfl, spelt⟩
        · exact .inl ⟨extra, by simp, spelt⟩
        · exact .inr ⟨extra, by simp, spelt⟩

/-- The ending of a raw variable ends no text that ends in an ordinal. -/
theorem not_suffix_append_ordinal (front : List Char) (n : Nat) :
    ¬ "Str".toList <:+ front ++ (ordinal n).toList := by
  intro ends
  rcases List.eq_nil_or_concat' (decimalDigits n) with none | ⟨others, last, digits⟩
  · exact decimalDigits_ne_nil n none
  · have small : last < 10 := decimalDigits_lt n last (by simp [digits])
    rw [toList_ordinal, digits, spelled_concat, ← List.append_assoc] at ends
    have apart : ∀ digit : Fin 10, ¬ "Str".toList <:+ (digitName digit).toList ∧
        ¬ (digitName digit).toList <:+ "Str".toList := by decide
    rcases List.suffix_or_suffix_of_suffix ends (List.suffix_append _ _) with inside | around
    · exact (apart ⟨last, small⟩).1 inside
    · exact (apart ⟨last, small⟩).2 around

/-! Reading back -/

theorem leadingDigit?_digitName (digit : Nat) (small : digit < 10) (rest : List Char) :
    leadingDigit? ((digitName digit).toList ++ rest) = some (digit, rest) := by
  interval_cases digit <;> rfl

theorem length_le_spelled (digits : List Nat) : digits.length ≤ (spelled digits).length := by
  induction digits with
  | nil => exact Nat.le_refl 0
  | cons digit rest ih =>
      have nonempty : (digitName digit).toList ≠ [] := by simpa using digitName_ne_empty digit
      have positive := List.length_pos_iff.mpr nonempty
      simp only [spelled, List.flatMap_cons, List.length_append, List.length_cons] at ih ⊢
      omega

/-- No digit name starts another, so that the digits are read one by one from the front. -/
theorem readDigits?_spelled (fuel value : Nat) (digits : List Nat)
    (small : ∀ digit ∈ digits, digit < 10) (enough : digits.length ≤ fuel) :
    readDigits? fuel value (spelled digits)
      = some (digits.foldl (fun value digit => value * 10 + digit) value) := by
  induction digits generalizing fuel value with
  | nil => simp [spelled, readDigits?]
  | cons digit rest ih =>
      obtain ⟨bounded, others⟩ := List.forall_mem_cons.mp small
      cases fuel with
      | zero => simp at enough
      | succ fuel =>
          have later := ih fuel (value * 10 + digit) others (by simpa using enough)
          have text : spelled (digit :: rest) = (digitName digit).toList ++ spelled rest := by
            simp [spelled]
          have first := leadingDigit?_digitName digit bounded (spelled rest)
          rw [text]
          cases letters : (digitName digit).toList ++ spelled rest with
          | nil => simp [digitName_ne_empty] at letters
          | cons c tail =>
              rw [letters] at first
              simp only [readDigits?, first, Option.bind_some, later, List.foldl_cons]

theorem foldl_decimalDigits (n : Nat) :
    (decimalDigits n).foldl (fun value digit => value * 10 + digit) 0 = n := by
  induction n using decimalDigits.induct with
  | case1 n small => simp [decimalDigits_of_lt n small]
  | case2 n large ih =>
      rw [decimalDigits, if_neg large, List.foldl_append, ih]
      exact Nat.div_add_mod' n 10

theorem readOrdinal?_ordinal (n : Nat) : readOrdinal? (ordinal n) = some n := by
  have size : (decimalDigits n).length ≤ (ordinal n).length := by
    rw [← String.length_toList, toList_ordinal]
    exact length_le_spelled _
  have read := readDigits?_spelled (ordinal n).length 0 (decimalDigits n) (decimalDigits_lt n) size
  rw [readOrdinal?, if_neg (by simpa using ordinal_ne_empty n), toList_ordinal, read,
    foldl_decimalDigits]

theorem ordinal_injective : Function.Injective ordinal := by
  intro first second same
  exact Option.some.inj (by rw [← readOrdinal?_ordinal first, same, readOrdinal?_ordinal])

end HttpBinding.Identifier
