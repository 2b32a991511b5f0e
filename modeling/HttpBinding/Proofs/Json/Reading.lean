import HttpBinding.Proofs.Json.Quotation
import HttpBinding.Proofs.Json.Spelling

/-!
Reading JSON: a value is read off the front of every text that begins with a spelling of it,
and what follows is left. So however a value is written, the same document is read.
-/
namespace HttpBinding.Json

/-- The number that is written by decimal digits alone. -/
def Number.ofNat (value : Nat) : Number := ⟨(toString value).toList, [], false, []⟩

namespace Value

mutual

/-- What is read where the value is written. A number may be too large to be one. -/
def document : Value → Document
  | null => .leaf .null
  | flag value => .leaf (.ofFlag value)
  | number value => if (Number.ofNat value).isFinite then .leaf .number else .damaged
  | text value => .leaf (.ofText value)
  | list items => .list (documents items) true
  | object entries => .object (entryDocuments entries) true

def documents : List Value → List Document
  | [] => []
  | item :: rest => document item :: documents rest

def entryDocuments : List (String × Value) → List (Document × Document)
  | [] => []
  | (name, value) :: rest => (.leaf (.ofText name), document value) :: entryDocuments rest

end

theorem documents_map (write : α → Value) (values : List α) :
    documents (values.map write) = values.map fun value => (write value).document := by
  induction values with
  | nil => rfl
  | cons value rest ih => rw [List.map_cons, documents, ih, List.map_cons]

theorem entryDocuments_append (first second : List (String × Value)) :
    entryDocuments (first ++ second) = entryDocuments first ++ entryDocuments second := by
  induction first with
  | nil => rfl
  | cons entry rest ih =>
      rw [List.cons_append, entryDocuments, ih, entryDocuments, List.cons_append]

end Value

/-! Blanks -/

theorem skipBlank_gap (gap rest : List Char) (blank : IsGap gap) :
    skipBlank (gap ++ rest) = skipBlank rest :=
  List.dropWhile_append_of_pos blank

theorem skipBlank_cons (c : Char) (rest : List Char) (solid : isBlank c = false) :
    skipBlank (c :: rest) = c :: rest := by
  simp [skipBlank, solid]

theorem skipBlank_gap_cons (gap : List Char) (c : Char) (rest : List Char) (blank : IsGap gap)
    (solid : isBlank c = false) : skipBlank (gap ++ c :: rest) = c :: rest := by
  rw [skipBlank_gap gap _ blank, skipBlank_cons c rest solid]

theorem value_gap (fuel : Nat) (gap rest : List Char) (blank : IsGap gap) :
    value fuel (gap ++ rest) = value fuel rest := by
  cases fuel with
  | zero => rfl
  | succ fuel => rw [value, value, skipBlank_gap gap rest blank]

/-! Numbers -/

/-- What follows a part: a blank, a comma or a bracket that closes. -/
def EndsPart (rest : List Char) : Prop :=
  ∀ c ∈ rest.head?, isBlank c = true ∨ c = ',' ∨ c = ']' ∨ c = '\x7d'

theorem endsPart_gap (gap : List Char) (c : Char) (rest : List Char) (blank : IsGap gap)
    (stop : c = ',' ∨ c = ']' ∨ c = '\x7d') : EndsPart (gap ++ c :: rest) := by
  intro first found
  cases gap with
  | nil =>
      obtain rfl : c = first := by simpa using found
      exact .inr stop
  | cons d more =>
      obtain rfl : d = first := by simpa using found
      exact .inl (blank d List.mem_cons_self)

theorem enclosed_endsPart (close : Char) (bracket : close = ']' ∨ close = '\x7d')
    (parts : List (List Char)) (body rest : List Char)
    (enclosed : Enclosed close false parts body) : EndsPart (body ++ rest) := by
  cases enclosed with
  | done _ gap blank =>
      rw [List.append_assoc]
      exact endsPart_gap gap close rest blank (.inr bracket)
  | next gap part parts body blank more =>
      rw [List.append_assoc]
      exact endsPart_gap gap ',' _ blank (.inl rfl)

theorem length_pos_of_enclosed (close : Char) (first : Bool) (parts : List (List Char))
    (body : List Char) (enclosed : Enclosed close first parts body) : 0 < body.length := by
  induction enclosed with
  | done first gap blank => simp
  | first part parts body more ih =>
      rw [List.length_append]
      omega
  | next gap part parts body blank more ih =>
      rw [List.length_append, List.length_cons]
      omega

/-- No character that goes on with a number ends a part. -/
theorem endsPart_cons (c : Char) (rest : List Char) (ends : EndsPart (c :: rest)) :
    c.isDigit = false ∧ c ≠ '.' ∧ c ≠ 'e' ∧ c ≠ 'E' := by
  have stop := ends c rfl
  simp only [isBlank, Bool.or_eq_true, decide_eq_true_eq, or_assoc] at stop
  rcases stop with rfl | rfl | rfl | rfl | rfl | rfl | rfl <;> decide

theorem takeDigits_append (digits rest : List Char) (allDigits : ∀ c ∈ digits, c.isDigit = true)
    (ends : EndsPart rest) : takeDigits (digits ++ rest) = (digits, rest) := by
  rw [takeDigits, List.takeWhile_append_of_pos allDigits, List.dropWhile_append_of_pos allDigits]
  cases rest with
  | nil => simp
  | cons c more => simp [(endsPart_cons c more ends).1]

theorem head?_toDigits_ne_zero (value : Nat) (positive : 0 < value) :
    (Nat.toDigits 10 value).head? ≠ some '0' := by
  induction value using Nat.strongRecOn with
  | ind value ih =>
      by_cases small : value < 10
      · rw [Nat.toDigits_of_lt_base small]
        have leading : ∀ digit < 10, 0 < digit → digit.digitChar ≠ '0' := by decide
        simpa using leading value small positive
      · have front := ih (value / 10) (by omega) (by omega)
        rw [Nat.toDigits_of_base_le (by decide) (by omega), List.head?_append]
        cases digits : Nat.toDigits 10 (value / 10) with
        | nil => exact absurd digits Nat.toDigits_ne_nil
        | cons c more => simpa [digits] using front

theorem wholePart?_toDigits (value : Nat) (rest : List Char) (ends : EndsPart rest) :
    wholePart? (Nat.toDigits 10 value ++ rest) = some (Nat.toDigits 10 value, rest) := by
  have allDigits : ∀ c ∈ Nat.toDigits 10 value, c.isDigit = true := fun c member =>
    Nat.isDigit_of_mem_toDigits (by decide) (by decide) member
  rw [wholePart?, takeDigits_append _ _ allDigits ends]
  rcases Nat.eq_zero_or_pos value with rfl | positive
  · rfl
  · have leading := head?_toDigits_ne_zero value positive
    split
    · next nothing => exact absurd (Prod.mk.inj nothing).1 Nat.toDigits_ne_nil
    · next zero =>
        rw [(Prod.mk.inj zero).1] at leading
        exact absurd rfl leading
    · rfl

theorem fractionPart?_none (rest : List Char) (ends : EndsPart rest) :
    fractionPart? rest = some ([], rest) := by
  unfold fractionPart?
  split
  · exact absurd rfl (endsPart_cons _ _ ends).2.1
  · rfl

theorem exponentPart?_none (rest : List Char) (ends : EndsPart rest) :
    exponentPart? rest = some (false, [], rest) := by
  cases rest with
  | nil => rfl
  | cons c more =>
      obtain ⟨_, _, small, capital⟩ := endsPart_cons c more ends
      simp [exponentPart?, small, capital]

theorem numberLeaf_spelled (number : Nat) (rest : List Char) (ends : EndsPart rest) :
    numberLeaf ((toString number).toList ++ rest) =
      ((Value.number number).document, some rest) := by
  rw [Nat.toString_eq_repr, Nat.toList_repr, numberLeaf, number?, wholePart?_toDigits _ _ ends]
  simp only [Option.bind_eq_bind, Option.bind_some, fractionPart?_none rest ends,
    exponentPart?_none rest ends, Option.pure_def, Value.document, Number.ofNat,
    Nat.toString_eq_repr, Nat.toList_repr]

/-! Lists and objects, one part at a time -/

/-- A character that a part may begin with: no blank, no comma and no closing bracket. -/
def StartsPart (c : Char) : Prop := isBlank c = false ∧ c ≠ ',' ∧ c ≠ ']'

theorem items_done (fuel : Nat) (first : Bool) (gap rest : List Char) (blank : IsGap gap) :
    items (fuel + 1) first (gap ++ ']' :: rest) = ([], true, some rest) := by
  rw [items, skipBlank_gap_cons gap ']' rest blank (by decide)]
  rfl

theorem items_first (fuel : Nat) (gap : List Char) (c : Char) (rest : List Char)
    (blank : IsGap gap) (start : StartsPart c) :
    items (fuel + 1) true (gap ++ c :: rest) = itemThen fuel (c :: rest) := by
  rw [items, skipBlank_gap_cons gap c rest blank start.1]
  split
  · next same => exact absurd (List.cons.inj same).1 start.2.2
  · next same => exact absurd (List.cons.inj same).1 start.2.1
  · rfl

theorem items_next (fuel : Nat) (gap lead : List Char) (c : Char) (rest : List Char)
    (blank : IsGap gap) (leading : IsGap lead) (start : StartsPart c) :
    items (fuel + 1) false (gap ++ ',' :: (lead ++ c :: rest)) = itemThen fuel (c :: rest) := by
  rw [items, skipBlank_gap_cons gap ',' _ blank (by decide)]
  simp only [Bool.false_eq_true, if_false, skipBlank_gap_cons lead c rest leading start.1]
  split
  · next same => exact absurd (List.cons.inj same).1 start.2.2
  · rfl

/-- The first of the parts that are left, with what stands behind it. -/
theorem items_enclosed (first : Bool) (gap : List Char) (c : Char)
    (tail : List Char) (parts : List (List Char)) (body rest : List Char) (blank : IsGap gap)
    (start : StartsPart c) (enclosed : Enclosed ']' first ((gap ++ c :: tail) :: parts) body) :
    ∃ behind, Enclosed ']' false parts behind ∧
      (c :: tail).length + behind.length ≤ body.length ∧ ∀ fuel,
        items (fuel + 1) first (body ++ rest) = itemThen fuel (c :: tail ++ (behind ++ rest)) := by
  cases enclosed with
  | first _ _ behind more =>
      refine ⟨behind, more, by simp; omega, fun fuel => ?_⟩
      have step := items_first fuel gap c (tail ++ (behind ++ rest)) blank start
      simpa using step
  | next lead _ _ behind leading more =>
      refine ⟨behind, more, by simp; omega, fun fuel => ?_⟩
      have step := items_next fuel lead gap c (tail ++ (behind ++ rest)) leading blank start
      simpa using step

theorem itemThen_read (fuel : Nat) (text rest after : List Char) (item : Document)
    (later : List Document) (here : value fuel text = (item, some rest))
    (behind : items fuel false rest = (later, true, some after)) :
    itemThen (fuel + 1) text = (item :: later, true, some after) := by
  simp only [itemThen, here, behind]

theorem entries_done (fuel : Nat) (first : Bool) (gap rest : List Char) (blank : IsGap gap) :
    entries (fuel + 1) first (gap ++ '\x7d' :: rest) = ([], true, some rest) := by
  rw [entries, skipBlank_gap_cons gap '\x7d' rest blank (by decide)]
  rfl

theorem entries_first (fuel : Nat) (lead rest : List Char) (leading : IsGap lead) :
    entries (fuel + 1) true (lead ++ '"' :: rest) = entryThen fuel rest := by
  rw [entries, skipBlank_gap_cons lead '"' rest leading (by decide)]
  rfl

theorem entries_next (fuel : Nat) (gap lead rest : List Char) (blank : IsGap gap)
    (leading : IsGap lead) :
    entries (fuel + 1) false (gap ++ ',' :: (lead ++ '"' :: rest)) = entryThen fuel rest := by
  rw [entries, skipBlank_gap_cons gap ',' _ blank (by decide)]
  simp only [Bool.false_eq_true, if_false, skipBlank_gap_cons lead '"' rest leading (by decide)]

theorem entries_enclosed (first : Bool) (lead tail : List Char)
    (parts : List (List Char)) (body rest : List Char) (leading : IsGap lead)
    (enclosed : Enclosed '\x7d' first ((lead ++ '"' :: tail) :: parts) body) :
    ∃ behind, Enclosed '\x7d' false parts behind ∧ tail.length + behind.length < body.length ∧
      ∀ fuel,
        entries (fuel + 1) first (body ++ rest) = entryThen fuel (tail ++ (behind ++ rest)) := by
  cases enclosed with
  | first _ _ behind more =>
      refine ⟨behind, more, by simp; omega, fun fuel => ?_⟩
      have step := entries_first fuel lead (tail ++ (behind ++ rest)) leading
      simpa using step
  | next gap _ _ behind blank more =>
      refine ⟨behind, more, by simp; omega, fun fuel => ?_⟩
      have step := entries_next fuel gap lead (tail ++ (behind ++ rest)) blank leading
      simpa using step

theorem entryThen_read (fuel : Nat) (text rest left after : List Char) (name : String)
    (item : Document) (later : List (Document × Document))
    (key : text? text = some (some name, ':' :: rest)) (here : value fuel rest = (item, some left))
    (behind : entries fuel false left = (later, true, some after)) :
    entryThen (fuel + 1) text = ((.leaf (.ofText name), item) :: later, true, some after) := by
  simp only [entryThen, key, skipBlank_cons ':' rest (by decide), here, behind]

/-! Whole values -/

theorem startsPart_of_isDigit (c : Char) (digit : c.isDigit = true) : StartsPart c := by
  refine ⟨?_, ?_, ?_⟩
  · rw [Bool.eq_false_iff]
    intro blank
    simp only [isBlank, Bool.or_eq_true, decide_eq_true_eq, or_assoc] at blank
    rcases blank with rfl | rfl | rfl | rfl <;> simp at digit
  · rintro rfl
    simp at digit
  · rintro rfl
    simp at digit

theorem digits_start (number : Nat) :
    ∃ c more, (toString number).toList = c :: more ∧ c.isDigit = true := by
  rw [Nat.toString_eq_repr, Nat.toList_repr]
  cases digits : Nat.toDigits 10 number with
  | nil => exact absurd digits Nat.toDigits_ne_nil
  | cons c more =>
      have member : c ∈ Nat.toDigits 10 number := digits ▸ List.mem_cons_self
      exact ⟨c, more, rfl, Nat.isDigit_of_mem_toDigits (by decide) (by decide) member⟩

theorem spells_start (written : Value) (chars : List Char) (spelled : written.Spells chars) :
    ∃ c more, chars = c :: more ∧ StartsPart c := by
  cases written with
  | null => exact ⟨'n', _, spelled, by simp [StartsPart, isBlank]⟩
  | flag flag =>
      cases flag with
      | false => exact ⟨'f', _, spelled, by simp [StartsPart, isBlank]⟩
      | true => exact ⟨'t', _, spelled, by simp [StartsPart, isBlank]⟩
  | number number =>
      obtain ⟨c, more, digits, digit⟩ := digits_start number
      exact ⟨c, more, spelled.trans digits, startsPart_of_isDigit c digit⟩
  | text text => exact ⟨'"', _, spelled, by simp [StartsPart, isBlank]⟩
  | list items =>
      obtain ⟨_, body, _, _, rfl⟩ := spelled
      exact ⟨'[', body, rfl, by simp [StartsPart, isBlank]⟩
  | object entries =>
      obtain ⟨_, body, _, _, rfl⟩ := spelled
      exact ⟨'\x7b', body, rfl, by simp [StartsPart, isBlank]⟩

theorem value_digit (fuel : Nat) (c : Char) (rest : List Char) (digit : c.isDigit = true) :
    value (fuel + 1) (c :: rest) = numberLeaf (c :: rest) := by
  have solid := (startsPart_of_isDigit c digit).1
  rw [value, skipBlank_cons c rest solid]
  split <;> simp_all

theorem value_quoted (fuel : Nat) (text : String) (rest : List Char) :
    value (fuel + 1) (quoted text ++ rest) = (.leaf (.ofText text), some rest) := by
  rw [quoted_append, value, skipBlank_cons '"' _ (by decide)]
  simp only [textLeaf, text?_escaped]

-- A value takes three units of fuel for each of its characters; a part of a list or an object
-- takes one unit for the comma, one for the part and one to go on.
mutual

theorem value_spelled (written : Value) (chars rest : List Char) (fuel : Nat)
    (spelled : written.Spells chars) (ends : EndsPart rest) (enough : 3 * chars.length ≤ fuel) :
    value fuel (chars ++ rest) = (written.document, some rest) := by
  obtain ⟨first, more, start, _⟩ := spells_start written chars spelled
  obtain ⟨fuel, rfl⟩ : ∃ left, fuel = left + 1 := by
    rw [start, List.length_cons] at enough
    exact ⟨fuel - 1, by omega⟩
  match written with
  | .null =>
      rw [Value.Spells] at spelled
      subst spelled
      rfl
  | .flag true =>
      rw [Value.Spells] at spelled
      subst spelled
      rfl
  | .flag false =>
      rw [Value.Spells] at spelled
      subst spelled
      rfl
  | .number number =>
      rw [Value.Spells] at spelled
      obtain ⟨c, digits, shown, digit⟩ := digits_start number
      have leaf := numberLeaf_spelled number rest ends
      rw [shown] at spelled leaf
      rw [spelled, List.cons_append, value_digit fuel c _ digit]
      exact leaf
  | .text text =>
      rw [Value.Spells] at spelled
      rw [spelled, value_quoted, Value.document]
  | .list items =>
      obtain ⟨parts, body, all, enclosed, rfl⟩ := spelled
      have room : 3 * body.length ≤ fuel := by
        rw [List.length_cons] at enough
        omega
      rw [List.cons_append, value, skipBlank_cons '[' _ (by decide)]
      simp only [items_spelled items parts true body rest fuel all enclosed room, Value.document]
  | .object entries =>
      obtain ⟨parts, body, all, enclosed, rfl⟩ := spelled
      have room : 3 * body.length ≤ fuel := by
        rw [List.length_cons] at enough
        omega
      rw [List.cons_append, value, skipBlank_cons '\x7b' _ (by decide)]
      simp only [entries_spelled entries parts true body rest fuel all enclosed room,
        Value.document]

theorem items_spelled (written : List Value) (parts : List (List Char)) (first : Bool)
    (body rest : List Char) (fuel : Nat) (spelled : Value.SpellsAll written parts)
    (enclosed : Enclosed ']' first parts body) (enough : 3 * body.length ≤ fuel) :
    items fuel first (body ++ rest) = (Value.documents written, true, some rest) := by
  match written with
  | [] =>
      rw [Value.SpellsAll] at spelled
      subst spelled
      cases enclosed with
      | done _ gap blank =>
          rw [List.length_append, List.length_singleton] at enough
          obtain ⟨fuel, rfl⟩ : ∃ left, fuel = left + 1 := ⟨fuel - 1, by omega⟩
          rw [List.append_assoc, Value.documents]
          exact items_done fuel first gap rest blank
  | item :: others =>
      obtain ⟨gap, chars, more, blank, itemSpelled, all, rfl⟩ := spelled
      obtain ⟨c, tail, rfl, start⟩ := spells_start item chars itemSpelled
      obtain ⟨behind, later, shorter, step⟩ :=
        items_enclosed first gap c tail more body rest blank start enclosed
      have left := length_pos_of_enclosed ']' false more behind later
      rw [List.length_cons] at shorter
      obtain ⟨fuel, rfl⟩ : ∃ left, fuel = left + 2 := ⟨fuel - 2, by omega⟩
      have ends := enclosed_endsPart ']' (.inl rfl) more behind rest later
      rw [step, Value.documents]
      exact itemThen_read fuel _ _ rest _ _
        (value_spelled item (c :: tail) _ fuel itemSpelled ends (by rw [List.length_cons]; omega))
        (items_spelled others more false behind rest fuel all later (by omega))

theorem entries_spelled (written : List (String × Value)) (parts : List (List Char))
    (first : Bool) (body rest : List Char) (fuel : Nat)
    (spelled : Value.SpellsEntries written parts) (enclosed : Enclosed '\x7d' first parts body)
    (enough : 3 * body.length ≤ fuel) :
    entries fuel first (body ++ rest) = (Value.entryDocuments written, true, some rest) := by
  match written with
  | [] =>
      rw [Value.SpellsEntries] at spelled
      subst spelled
      cases enclosed with
      | done _ gap blank =>
          rw [List.length_append, List.length_singleton] at enough
          obtain ⟨fuel, rfl⟩ : ∃ left, fuel = left + 1 := ⟨fuel - 1, by omega⟩
          rw [List.append_assoc, Value.entryDocuments]
          exact entries_done fuel first gap rest blank
  | (name, item) :: others =>
      obtain ⟨lead, gap, chars, more, leading, blank, itemSpelled, all, rfl⟩ := spelled
      rw [List.append_assoc, quoted_append] at enclosed
      obtain ⟨behind, later, shorter, step⟩ :=
        entries_enclosed first lead _ more body rest leading enclosed
      have left := length_pos_of_enclosed '\x7d' false more behind later
      simp only [List.length_append, List.length_cons] at shorter
      obtain ⟨fuel, rfl⟩ : ∃ left, fuel = left + 2 := ⟨fuel - 2, by omega⟩
      have ends := enclosed_endsPart '\x7d' (.inr rfl) more behind rest later
      have here := value_spelled item chars (behind ++ rest) fuel itemSpelled ends (by omega)
      rw [← value_gap fuel gap _ blank] at here
      rw [step, Value.entryDocuments, List.append_assoc, List.cons_append, List.cons_append,
        List.append_assoc]
      exact entryThen_read fuel _ _ _ rest name _ _ (text?_escaped name _) here
        (entries_spelled others more false behind rest fuel all later (by omega))

end

/-- Every spelling of a value is read as its document, whatever blanks surround it. -/
theorem read_spelled (written : Value) (lead chars gap : List Char) (leading : IsGap lead)
    (spelled : written.Spells chars) (blank : IsGap gap) :
    read (String.ofList (lead ++ (chars ++ gap))) = (written.document, true) := by
  have ends : EndsPart gap := by
    intro c found
    exact .inl (blank c (List.mem_of_mem_head? found))
  have enough : 3 * chars.length ≤ 3 * (lead ++ (chars ++ gap)).length + 3 := by
    simp only [List.length_append]
    omega
  have rest : skipBlank gap = [] := by
    have trailing := skipBlank_gap gap [] blank
    rwa [List.append_nil] at trailing
  simp only [read, String.toList_ofList, String.length_ofList, value_gap _ lead _ leading,
    value_spelled written chars gap _ spelled ends enough, rest, List.isEmpty_nil]

theorem read_compact (written : Value) : read written.compact = (written.document, true) := by
  have spelled := read_spelled written [] _ [] isGap_nil written.spells_compactChars isGap_nil
  rwa [List.append_nil] at spelled

theorem read_pretty (written : Value) : read written.pretty = (written.document, true) := by
  have spelled := read_spelled written [] _ [] isGap_nil (written.spells_prettyChars 0) isGap_nil
  rwa [List.append_nil] at spelled

end HttpBinding.Json
