import HttpBinding.Command.Request

/-!
Command lines that ask for a task. The dashes in front of a file keep its name from being
taken for an option, so every file with a name can be asked for, under every profile.
-/
namespace HttpBinding.Command

/-- The words behind the options. -/
def Task.words : Task → List String
  | routes path => ["routes", "--", path]
  | model path => ["model", "--", path]
  | helper => ["helper"]

def Task.line (profile : String) (task : Task) : List String :=
  (profileOption ++ "=" ++ profile) :: task.words

theorem attachedProfile?_append (name : String) :
    attachedProfile? (profileOption ++ "=" ++ name) = some name := by
  simp [attachedProfile?, profileOption]

theorem items_attached (name next : String) (rest : List String) :
    items ((profileOption ++ "=" ++ name) :: next :: rest)
      = .profile true name :: items (next :: rest) := by
  have longer : ∀ short : String, short.length ≤ 9 → profileOption ++ "=" ++ name ≠ short := by
    rintro short bound rfl
    have sizes : profileOption.length = 9 ∧ "=".length = 1 := by decide
    simp only [String.length_append] at bound
    omega
  rw [items, if_neg (longer _ (by decide)), if_neg (longer _ (by decide)), Item.ofWord,
    attachedProfile?_append]

theorem ofArguments_line (profile : String) (task : Task) (named : "" ∉ task.words) :
    Request.ofArguments (task.line profile) = .perform profile task := by
  cases task with
  | routes path | model path =>
      have filled : path ≠ "" := by
        rintro rfl
        simp [Task.words] at named
      rw [Request.ofArguments, Task.line, Task.words, items_attached]
      simp [items, Item.ofWord, ofItems, ofCommand, operands, filled, wordCount, commandNames,
        isOption, attachedProfile?, profileOption, Task.ofWords?]
  | helper =>
      rw [Request.ofArguments, Task.line, Task.words, items_attached]
      simp [items, Item.ofWord, ofItems, ofCommand, operands, commandNames, isOption,
        attachedProfile?, profileOption, Task.ofWords?]

end HttpBinding.Command
