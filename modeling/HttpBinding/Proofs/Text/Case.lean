import HttpBinding.Text.Case

/-!
Case forms. The small form of a letter starts with a letter that is its own small form, and
no form of another character holds an underscore. Both are read off the tables run by run
and not character by character.
-/
namespace HttpBinding.Text

theorem toNat_ofNat_of_valid (code : Nat) (valid : code.isValidChar) :
    (Char.ofNat code).toNat = code := by
  rw [Char.ofNat, dif_pos valid]
  rfl

theorem forall_ascii (holds : Char → Prop) (each : ∀ code : Fin 0x80, holds (Char.ofNat code))
    (c : Char) (ascii : c.toNat < 0x80) : holds c := by
  have found := each ⟨c.toNat, ascii⟩
  rwa [Char.ofNat_toNat] at found

namespace Shift

/-- The lowest code point that the shift leads to. -/
def lowest (shift : Shift) : Nat := Int.toNat (shift.run.first + shift.distance)

/-- The highest code point that the shift leads to. -/
def highest (shift : Shift) : Nat := Int.toNat (shift.run.last + shift.distance)

/-- The shift leads to no code point of the run: the run lies below or above, or it has the
odd code points and the shift leads to even ones, or the other way round. -/
def misses (shift : Shift) (run : Run) : Bool :=
  Nat.blt run.last shift.lowest || Nat.blt shift.highest run.first ||
    (Nat.beq shift.run.step 2 || Nat.beq shift.lowest shift.highest) && Nat.beq run.step 2 &&
      Nat.beq ((shift.lowest + run.first) % 2) 1

theorem covers_iff (run : Run) (code : Nat) : run.covers code = true ↔
    run.first ≤ code ∧ code ≤ run.last ∧ (code - run.first) % run.step = 0 := by
  simp [Run.covers, and_assoc]

theorem target_bounds (shift : Shift) (code : Nat) (covered : shift.run.covers code = true)
    (positive : 0 < shift.lowest) :
    shift.lowest ≤ Int.toNat (code + shift.distance) ∧
      Int.toNat (code + shift.distance) ≤ shift.highest ∧
      (shift.run.step = 2 → (shift.lowest + Int.toNat (code + shift.distance)) % 2 = 0) := by
  obtain ⟨low, high, even⟩ := (covers_iff shift.run code).mp covered
  simp only [lowest, highest] at positive ⊢
  refine ⟨by omega, by omega, fun two => ?_⟩
  rw [two] at even
  omega

theorem not_covers_of_misses (shift : Shift) (run : Run) (code : Nat)
    (covered : shift.run.covers code = true) (positive : 0 < shift.lowest)
    (misses : shift.misses run = true) :
    run.covers (Int.toNat (code + shift.distance)) = false := by
  obtain ⟨low, high, even⟩ := target_bounds shift code covered positive
  rw [← Bool.not_eq_true, covers_iff]
  rintro ⟨above, below, steps⟩
  simp only [Shift.misses, Bool.or_eq_true, Bool.and_eq_true, Nat.blt_eq, Nat.beq_eq] at misses
  rcases misses with (behind | front) | ⟨⟨two | single, otherTwo⟩, odd⟩
  · omega
  · omega
  · have := even two
    rw [otherTwo] at steps
    omega
  · rw [otherTwo] at steps
    omega

/-- The shift leads to letters that are not shifted again. Of those in ASCII there is only
one, the small form of the sign for degrees Kelvin. -/
def settles (shift : Shift) : Bool :=
  (Nat.ble 0x80 shift.lowest || Nat.beq shift.lowest 0x6B && Nat.beq shift.highest 0x6B) &&
    (Nat.blt shift.highest 0xD800 ||
      Nat.blt 0xDFFF shift.lowest && Nat.blt shift.highest 0x110000) &&
    alphabeticRanges.any (fun range =>
      Nat.ble range.1 shift.lowest && Nat.ble shift.highest range.2) &&
    loweringShifts.all (fun other => shift.misses other.run) &&
    loweringExpansions.all fun entry =>
      Nat.blt entry.1 shift.lowest || Nat.blt shift.highest entry.1

end Shift

theorem settles_of_wide :
    ∀ shift ∈ loweringShifts, 0x80 ≤ shift.run.last → shift.settles = true := by
  decide +kernel

/-- A letter that is its own small form. -/
structure IsSettled (c : Char) : Prop where
  letter : isAlphabetic c = true
  small : lowered c = [c]

theorem isSettled_of_settles (shift : Shift) (code : Nat)
    (covered : shift.run.covers code = true) (settles : shift.settles = true) :
    IsSettled (Char.ofNat (Int.toNat (code + shift.distance))) := by
  simp only [Shift.settles, Bool.and_eq_true, Bool.or_eq_true, Nat.ble_eq, Nat.blt_eq, Nat.beq_eq,
    List.any_eq_true, List.all_eq_true] at settles
  obtain ⟨⟨⟨⟨wide, valid⟩, range, member, from_le, le_to⟩, missed⟩, unexpanded⟩ := settles
  have positive : 0 < shift.lowest := by omega
  obtain ⟨low, high, _⟩ := shift.target_bounds code covered positive
  have unshifted : ∀ other ∈ loweringShifts,
      other.run.covers (Int.toNat (code + shift.distance)) = false := fun other known =>
    shift.not_covers_of_misses other.run code covered positive (missed other known)
  generalize Int.toNat (code + shift.distance) = target at *
  have same : (Char.ofNat target).toNat = target := by
    apply toNat_ofNat_of_valid
    exact (by omega : target < 0xD800 ∨ 0xDFFF < target ∧ target < 0x110000)
  by_cases ascii : target < 0x80
  · obtain rfl : target = 0x6B := by omega
    exact ⟨by decide, by decide⟩
  · constructor
    · rw [isAlphabetic, same, if_neg ascii, inRanges, List.any_eq_true]
      exact ⟨range, member, by simp; omega⟩
    · have unfound : shifted? loweringShifts target = none := by
        simpa [shifted?] using unshifted
      have plain : loweringExpansions.lookup target = none := by
        rw [List.lookup_eq_none_iff]
        intro entry known
        have := unexpanded entry known
        simp
        omega
      rw [lowered, mapped, same, if_neg ascii, plain, unfound]
      rfl

theorem isSettled_toLower (c : Char) (ascii : c.toNat < 0x80) (letter : isAlphabetic c = true) :
    IsSettled c.toLower := by
  rw [isAlphabetic, if_pos ascii] at letter
  obtain ⟨low, kept, same⟩ := forall_ascii
    (fun c => c.isAlpha = true →
      c.toLower.toNat < 0x80 ∧ c.toLower.isAlpha = true ∧ c.toLower.toLower = c.toLower)
    (by decide) c ascii letter
  exact ⟨by rw [isAlphabetic, if_pos low, kept], by rw [lowered, if_pos low, same]⟩

theorem isSettled_of_expansion : ∀ entry ∈ loweringExpansions,
    ∃ first rest, entry.2 = first :: rest ∧ IsSettled (Char.ofNat first) := by
  simp only [loweringExpansions, List.mem_singleton, forall_eq]
  exact ⟨0x69, [0x307], rfl, by decide, by decide⟩

/-- The form of a character is spelled out in a table, or a shift leads to it, or it is the
character. -/
theorem mapped_cases (shifts : List Shift) (expansions : List (Nat × List Nat)) (c : Char) :
    (∃ codes, (c.toNat, codes) ∈ expansions ∧
      mapped shifts expansions c = codes.map Char.ofNat) ∨
    (∃ shift ∈ shifts, shift.run.covers c.toNat = true ∧
      mapped shifts expansions c = [Char.ofNat (Int.toNat (c.toNat + shift.distance))]) ∨
    mapped shifts expansions c = [c] := by
  rw [mapped]
  cases expanded : expansions.lookup c.toNat with
  | some codes =>
      obtain ⟨front, back, table, _⟩ := List.lookup_eq_some_iff.mp expanded
      exact .inl ⟨codes, by simp [table], rfl⟩
  | none =>
      cases found : shifts.find? fun shift => shift.run.covers c.toNat with
      | none => exact .inr (.inr (by simp [shifted?, found]))
      | some shift =>
          have covered : shift.run.covers c.toNat = true := by simpa using List.find?_some found
          have moved : (shifted? shifts c.toNat).getD c
              = Char.ofNat (Int.toNat (c.toNat + shift.distance)) := by simp [shifted?, found]
          exact .inr (.inl ⟨shift, List.mem_of_find?_eq_some found, covered, by rw [moved]⟩)

/-- The small form of a letter starts with a letter that is its own small form. -/
theorem lowered_settled (c : Char) (letter : isAlphabetic c = true) :
    ∃ first rest, lowered c = first :: rest ∧ IsSettled first := by
  by_cases ascii : c.toNat < 0x80
  · exact ⟨c.toLower, [], by rw [lowered, if_pos ascii], isSettled_toLower c ascii letter⟩
  have form : lowered c = mapped loweringShifts loweringExpansions c := by
    rw [lowered, if_neg ascii]
  rcases mapped_cases loweringShifts loweringExpansions c with
    ⟨codes, member, spelled⟩ | ⟨shift, member, covered, moved⟩ | same
  · obtain ⟨first, rest, rfl, settled⟩ := isSettled_of_expansion (c.toNat, codes) member
    exact ⟨Char.ofNat first, rest.map Char.ofNat, form.trans spelled, settled⟩
  · have wide := ((Shift.covers_iff shift.run c.toNat).mp covered).2.1
    have settles := settles_of_wide shift member (by omega)
    exact ⟨_, [], form.trans moved, isSettled_of_settles shift c.toNat covered settles⟩
  · exact ⟨c, [], form.trans same, letter, form.trans same⟩

/-! Underscores -/

/-- The tables bring in no underscore, neither in a form of several characters nor by a shift
of the one code point that it would lead there. -/
def markFree (shifts : List Shift) (expansions : List (Nat × List Nat)) : Bool :=
  expansions.all (fun entry => !entry.2.contains 0x5F) &&
    shifts.all fun shift => !shift.run.covers (Int.toNat (0x5F - shift.distance))

theorem loweringTables_markFree : markFree loweringShifts loweringExpansions = true := by
  decide +kernel

theorem raisingTables_markFree : markFree raisingShifts raisingExpansions = true := by
  decide +kernel

theorem eq_of_ofNat_eq_mark (code : Nat) (same : Char.ofNat code = '_') : code = 0x5F := by
  by_cases valid : code.isValidChar
  · have number := congrArg Char.toNat same
    rwa [toNat_ofNat_of_valid code valid] at number
  · rw [Char.ofNat, dif_neg valid] at same
    exact absurd same (by decide)

theorem mark_not_mem_mapped (shifts : List Shift) (expansions : List (Nat × List Nat))
    (tables : markFree shifts expansions = true) (c : Char) (differs : c ≠ '_') :
    '_' ∉ mapped shifts expansions c := by
  simp only [markFree, Bool.and_eq_true, List.all_eq_true] at tables
  rcases mapped_cases shifts expansions c with
    ⟨codes, found, spelled⟩ | ⟨shift, found, covered, moved⟩ | same
  · have clean := tables.1 (c.toNat, codes) found
    rw [spelled, List.mem_map]
    rintro ⟨code, member, same⟩
    rw [eq_of_ofNat_eq_mark code same] at member
    simp [member] at clean
  · have clean := tables.2 shift found
    rw [moved, List.mem_singleton]
    intro same
    have number := eq_of_ofNat_eq_mark _ same.symm
    have back : Int.toNat (0x5F - shift.distance) = c.toNat := by omega
    simp [back, covered] at clean
  · rw [same, List.mem_singleton]
    exact Ne.symm differs

theorem mark_not_mem_lowered (c : Char) (differs : c ≠ '_') : '_' ∉ lowered c := by
  rw [lowered]
  split
  · next ascii =>
      have plain := forall_ascii (fun c => c ≠ '_' → '_' ≠ c.toLower) (by decide) c ascii differs
      simpa using plain
  · exact mark_not_mem_mapped _ _ loweringTables_markFree c differs

theorem mark_not_mem_raised (c : Char) (differs : c ≠ '_') : '_' ∉ raised c := by
  rw [raised]
  split
  · next ascii =>
      have plain := forall_ascii (fun c => c ≠ '_' → '_' ≠ c.toUpper) (by decide) c ascii differs
      simpa using plain
  · exact mark_not_mem_mapped _ _ raisingTables_markFree c differs

end HttpBinding.Text
