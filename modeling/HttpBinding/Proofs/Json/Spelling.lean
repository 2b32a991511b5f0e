import HttpBinding.Json.Reader
import HttpBinding.Json.Value

/-!
How a JSON value may be written: blanks may stand between its parts and nothing else is free.
The text on one line and the indented text are two of these spellings.
-/
namespace HttpBinding.Json

def IsGap (gap : List Char) : Prop := ∀ c ∈ gap, isBlank c = true

/-- Parts with commas between them, up to the bracket that closes them. In front of the
first part there is no comma. -/
inductive Enclosed (close : Char) : Bool → List (List Char) → List Char → Prop
  | done (first : Bool) (gap : List Char) (blank : IsGap gap) :
      Enclosed close first [] (gap ++ [close])
  | first (part : List Char) (parts : List (List Char)) (body : List Char)
      (more : Enclosed close false parts body) : Enclosed close true (part :: parts) (part ++ body)
  | next (gap part : List Char) (parts : List (List Char)) (body : List Char) (blank : IsGap gap)
      (more : Enclosed close false parts body) :
      Enclosed close false (part :: parts) (gap ++ ',' :: (part ++ body))

theorem isGap_nil : IsGap [] := by
  intro c member
  cases member

theorem isGap_lineBreak (depth : Nat) : IsGap (lineBreak depth) := by
  intro c member
  rcases List.mem_cons.mp member with rfl | space
  · decide
  · rw [List.eq_of_mem_replicate space]
    decide

/-- The separated texts behind the first one are enclosed if their gaps are blank. -/
theorem enclosed_behind (close : Char) (gap closing : List Char) (texts : List (List Char))
    (blank : IsGap closing) :
    Enclosed close false (texts.map (gap ++ ·))
      (texts.flatMap (fun text => ',' :: gap ++ text) ++ closing ++ [close]) := by
  induction texts with
  | nil => exact .done false closing blank
  | cons text rest ih => simpa using Enclosed.next [] (gap ++ text) _ _ isGap_nil ih

theorem separated_cons (separator text : List Char) (texts : List (List Char)) :
    separated separator (text :: texts)
      = text ++ texts.flatMap (fun other => separator ++ other) := by
  induction texts generalizing text with
  | nil => simp [separated]
  | cons other rest ih => simp [separated, ih]

theorem enclosed_separated (close : Char) (gap closing text : List Char)
    (texts : List (List Char)) (blank : IsGap closing) :
    Enclosed close true ((text :: texts).map (gap ++ ·))
      (gap ++ separated (',' :: gap) (text :: texts) ++ closing ++ [close]) := by
  have behind := enclosed_behind close gap closing texts blank
  have whole := Enclosed.first (gap ++ text) _ _ behind
  simpa [separated_cons] using whole

namespace Value

mutual

/-- The characters write the value, from the first to the last of them. -/
def Spells : Value → List Char → Prop
  | null, chars => chars = "null".toList
  | flag value, chars => chars = (if value then "true" else "false").toList
  | number value, chars => chars = (toString value).toList
  | text value, chars => chars = quoted value
  | list items, chars => ∃ parts body, SpellsAll items parts ∧ Enclosed ']' true parts body ∧
      chars = '[' :: body
  | object entries, chars => ∃ parts body, SpellsEntries entries parts ∧
      Enclosed '\x7d' true parts body ∧ chars = '\x7b' :: body

/-- Each part writes its item, perhaps behind blanks. -/
def SpellsAll : List Value → List (List Char) → Prop
  | [], parts => parts = []
  | item :: rest, parts => ∃ gap chars more, IsGap gap ∧ Spells item chars ∧
      SpellsAll rest more ∧ parts = (gap ++ chars) :: more

def SpellsEntries : List (String × Value) → List (List Char) → Prop
  | [], parts => parts = []
  | (name, value) :: rest, parts => ∃ before behind chars more, IsGap before ∧ IsGap behind ∧
      Spells value chars ∧ SpellsEntries rest more ∧
      parts = (before ++ quoted name ++ ':' :: (behind ++ chars)) :: more

end

-- A value, the items of a list and the entries of an object are taken together.
mutual

theorem spells_compactChars (value : Value) : Spells value value.compactChars := by
  match value with
  | null => rfl
  | flag true => rfl
  | flag false => rfl
  | number value => rfl
  | text value => rfl
  | list [] => exact ⟨[], _, rfl, .done true [] isGap_nil, rfl⟩
  | list (item :: rest) =>
      refine ⟨_, _, spellsAll_compactAll (item :: rest), ?_, rfl⟩
      have enclosed := enclosed_separated ']' [] [] item.compactChars (compactAll rest) isGap_nil
      simpa [compactAll] using enclosed
  | object [] => exact ⟨[], _, rfl, .done true [] isGap_nil, rfl⟩
  | object ((name, value) :: rest) =>
      refine ⟨_, _, spellsEntries_compactEntries ((name, value) :: rest), ?_, rfl⟩
      have enclosed := enclosed_separated '\x7d' [] [] (quoted name ++ ':' :: value.compactChars)
        (compactEntries rest) isGap_nil
      simpa [compactEntries] using enclosed

theorem spellsAll_compactAll (items : List Value) : SpellsAll items (compactAll items) := by
  match items with
  | [] => rfl
  | item :: rest =>
      exact ⟨[], _, _, isGap_nil, spells_compactChars item, spellsAll_compactAll rest, rfl⟩

theorem spellsEntries_compactEntries (entries : List (String × Value)) :
    SpellsEntries entries (compactEntries entries) := by
  match entries with
  | [] => rfl
  | (name, value) :: rest =>
      exact ⟨[], [], _, _, isGap_nil, isGap_nil, spells_compactChars value,
        spellsEntries_compactEntries rest, rfl⟩

end

mutual

theorem spells_prettyChars (depth : Nat) (value : Value) :
    Spells value (value.prettyChars depth) := by
  match value with
  | null => rfl
  | flag true => rfl
  | flag false => rfl
  | number value => rfl
  | text value => rfl
  | list [] => exact ⟨[], _, rfl, .done true [] isGap_nil, rfl⟩
  | list (item :: rest) =>
      refine ⟨_, _, spellsAll_prettyAll (depth + 1) (item :: rest), ?_, rfl⟩
      have enclosed := enclosed_separated ']' (lineBreak (depth + 1)) (lineBreak depth)
        (item.prettyChars (depth + 1)) (prettyAll (depth + 1) rest) (isGap_lineBreak depth)
      simpa [prettyAll] using enclosed
  | object [] => exact ⟨[], _, rfl, .done true [] isGap_nil, rfl⟩
  | object ((name, value) :: rest) =>
      refine ⟨_, _, spellsEntries_prettyEntries (depth + 1) ((name, value) :: rest), ?_, rfl⟩
      have enclosed := enclosed_separated '\x7d' (lineBreak (depth + 1)) (lineBreak depth)
        (quoted name ++ ':' :: ' ' :: value.prettyChars (depth + 1))
        (prettyEntries (depth + 1) rest) (isGap_lineBreak depth)
      simpa [prettyEntries] using enclosed

theorem spellsAll_prettyAll (depth : Nat) (items : List Value) :
    SpellsAll items ((prettyAll depth items).map (lineBreak depth ++ ·)) := by
  match items with
  | [] => rfl
  | item :: rest =>
      exact ⟨_, _, _, isGap_lineBreak depth, spells_prettyChars depth item,
        spellsAll_prettyAll depth rest, rfl⟩

theorem spellsEntries_prettyEntries (depth : Nat) (entries : List (String × Value)) :
    SpellsEntries entries ((prettyEntries depth entries).map (lineBreak depth ++ ·)) := by
  match entries with
  | [] => rfl
  | (name, value) :: rest =>
      have space : IsGap [' '] := by simp [IsGap, isBlank]
      refine ⟨lineBreak depth, [' '], _, _, isGap_lineBreak depth, space,
        spells_prettyChars depth value, spellsEntries_prettyEntries depth rest, ?_⟩
      simp [prettyEntries]

end
end Value
end HttpBinding.Json
