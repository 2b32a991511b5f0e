import HttpBinding.Dotenv.Reading

/-!
What a `.env` file assigns to. The environment gives the texts, but it decides neither
which lines are read nor which names they assign to.
-/
namespace HttpBinding.Dotenv

open Workspace (Environment)

theorem expanded?_isSome_congr (textOf other : List Char → List Char) (weak : Bool) (mode : Mode)
    (text : List Char) :
    (expanded? textOf weak mode text).isSome = (expanded? other weak mode text).isSome := by
  induction text generalizing weak mode with
  | nil => cases mode <;> cases weak <;> rfl
  | cons c rest ih =>
      cases mode with
      | text => simp only [expanded?, apply_ite Option.isSome, Option.isSome_map, ih]
      | escape =>
          simp only [expanded?]
          cases escaped? c <;> simp only [Option.isSome_map, ih]
      | strong => simp only [expanded?, apply_ite Option.isSome, Option.isSome_map, ih]
      | name start => simp only [expanded?, apply_ite Option.isSome, Option.isSome_map, ih]
      | braced start => simp only [expanded?, apply_ite Option.isSome, Option.isSome_map, ih]
      | ending => simp only [expanded?, apply_ite Option.isSome, ih]

theorem value?_isSome_congr (textOf other : List Char → List Char) (text : List Char) :
    (value? textOf text).isSome = (value? other text).isSome := by
  unfold value?
  split
  · rfl
  · exact expanded?_isSome_congr textOf other false .text text

theorem names_assignmentsOf (environment other : Environment) (lines : List (List Char)) :
    (assignmentsOf environment lines).map (·.1) = (assignmentsOf other lines).map (·.1) := by
  induction lines generalizing environment other with
  | nil => rfl
  | cons line rest ih =>
      simp only [assignmentsOf]
      split
      · exact ih environment other
      · cases assignment? (Text.trimLeft (Text.trimRight line)) with
        | none => rfl
        | some assigned =>
            obtain ⟨name, text⟩ := assigned
            have read := value?_isSome_congr (textIn environment) (textIn other) text
            cases here : value? (textIn environment) text with
            | none =>
                rw [here, Option.isSome_none, eq_comm, Option.isSome_eq_false_iff,
                  Option.isNone_iff_eq_none] at read
                simp [here, read]
            | some value =>
                rw [here, Option.isSome_some, eq_comm, Option.isSome_iff_exists] at read
                obtain ⟨again, there⟩ := read
                simp only [here, there, List.map_cons]
                rw [ih]

end HttpBinding.Dotenv
