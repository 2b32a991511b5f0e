import Mathlib.Data.List.Basic

/-!
Texts compare as their octets in UTF-8 do: of two characters the lower one has the lower
octets, whatever stands behind them.
-/
namespace HttpBinding.Text

/-- The octets of a text in UTF-8. -/
def octets (text : String) : List UInt8 := text.toUTF8.data.toList

theorem octets_eq_flatMap (text : String) :
    octets text = text.toList.flatMap String.utf8EncodeChar := by
  rw [octets, String.toUTF8_eq_toByteArray, ← String.utf8Encode_toList, List.utf8Encode,
    List.data_toByteArray]

theorem ofNat_cons_lt_iff (first second : Nat) (rest more : List UInt8) (small : first < 256)
    (little : second < 256) :
    UInt8.ofNat first :: rest < UInt8.ofNat second :: more ↔
      first < second ∨ first = second ∧ rest < more := by
  rw [List.cons_lt_cons_iff, UInt8.ofNat_lt_iff_lt small little, ← UInt8.toNat_inj,
    UInt8.toNat_ofNat_of_lt' small, UInt8.toNat_ofNat_of_lt' little]

theorem quotient_or_rest_lt (first second : Nat) (less : first < second) :
    first / 64 < second / 64 ∨ first / 64 = second / 64 ∧ first % 64 < second % 64 := by
  omega

theorem encoded_lt (first second : Char) (less : first < second) (rest more : List UInt8) :
    String.utf8EncodeChar first ++ rest < String.utf8EncodeChar second ++ more := by
  have lower : first.toNat < second.toNat := less
  have bound : second.toNat < 0x110000 := by
    have valid := second.valid
    simp only [UInt32.isValidChar, Nat.isValidChar, Char.toNat_val] at valid
    omega
  simp only [String.utf8EncodeChar, Char.toNat_val]
  generalize first.toNat = low at *
  generalize second.toNat = high at *
  -- Encodings of different lengths differ in the first octet, those of one length in the
  -- first of the digits to the base 64 that differs.
  have last := quotient_or_rest_lt low high
  have third := quotient_or_rest_lt (low / 64) (high / 64)
  have second := quotient_or_rest_lt (low / 64 / 64) (high / 64 / 64)
  rw [show 262144 = 64 * (64 * 64) by rfl, show 4096 = 64 * 64 by rfl]
  simp only [← Nat.div_div_eq_div_mul]
  split_ifs <;> simp (disch := omega) only [List.cons_append, List.nil_append, ofNat_cons_lt_iff]
    <;> omega

theorem flatMap_encoded_lt (first second : List Char) (less : first < second) :
    first.flatMap String.utf8EncodeChar < second.flatMap String.utf8EncodeChar := by
  induction less with
  | nil =>
      rename_i c rest
      have ⟨octet, more, written⟩ := List.exists_cons_of_ne_nil
        (String.utf8EncodeChar_ne_nil (c := c))
      rw [List.flatMap_nil, List.flatMap_cons, written]
      exact List.nil_lt_cons ..
  | rel lower => exact encoded_lt _ _ lower ..
  | cons behind ih => exact List.append_left_lt ih

theorem octets_lt_of_lt (first second : String) (less : first < second) :
    octets first < octets second := by
  rw [octets_eq_flatMap, octets_eq_flatMap]
  exact flatMap_encoded_lt _ _ less

theorem octets_lt_iff (first second : String) : octets first < octets second ↔ first < second := by
  refine ⟨fun less => ?_, octets_lt_of_lt first second⟩
  by_contra unordered
  by_cases reversed : second < first
  · exact List.lt_asymm less (octets_lt_of_lt second first reversed)
  · rw [String.le_antisymm reversed unordered] at less
    exact List.lt_irrefl _ less

end HttpBinding.Text
