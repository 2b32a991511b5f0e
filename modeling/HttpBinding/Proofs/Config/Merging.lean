import HttpBinding.Proofs.Config.DocumentOrder
import HttpBinding.Proofs.FirstFault
import Mathlib.Data.List.Induction

/-!
What a document does to the values below it. A setting is accepted or refused by itself;
where all are accepted, the last one of a known key decides, and no other key is touched.
-/
namespace HttpBinding.Config

open Workspace (Files)
open Yaml (Value)

/-- A setting outside of the own part, or one of a known key with a scalar or a null. -/
def Acceptable (setting : Setting) : Prop :=
  isOwn setting.key = true → setting.key ∈ knownKeys ∧
    (setting.value.scalarText?.isSome ∨ isNull setting.value = true)

/-- The values after an acceptable setting. -/
def assign (values : Assignments) (setting : Setting) : Assignments :=
  if isOwn setting.key then
    match setting.value.scalarText? with
    | some text => values.set setting.key text
    | none => values.unset setting.key
  else values

/-- The value of the last setting of a key. -/
def lastValue? (key : String) (settings : List Setting) : Option Value :=
  ((settings.filter (·.key = key)).getLast?).map Setting.value

theorem isOwn_of_known (key : String) (known : key ∈ knownKeys) : isOwn key = true := by
  revert key
  decide

theorem apply_ok_iff (origin : String) (values after : Assignments) (setting : Setting) :
    setting.apply origin values = .ok after ↔
      Acceptable setting ∧ after = assign values setting := by
  unfold Setting.apply Acceptable assign
  cases own : isOwn setting.key with
  | false => simp [@eq_comm _ after]
  | true =>
      by_cases known : setting.key ∈ knownKeys
      · cases text : setting.value.scalarText? with
        | some text => simp [known, @eq_comm _ after]
        | none =>
            by_cases null : isNull setting.value = true
            · simp [known, null, @eq_comm _ after]
            · simp [known, null]
      · simp [known]

theorem foldlM_apply_ok_iff (origin : String) (values after : Assignments)
    (settings : List Setting) :
    settings.foldlM (Setting.apply origin) values = .ok after ↔
      (∀ setting ∈ settings, Acceptable setting) ∧ after = settings.foldl assign values := by
  induction settings generalizing values with
  | nil => simp [pure, Except.pure, eq_comm]
  | cons setting rest ih =>
      rw [List.foldlM_cons, List.foldl_cons, List.forall_mem_cons]
      have step (next : Assignments) := apply_ok_iff origin values next setting
      cases applied : setting.apply origin values with
      | error error =>
          have refused := not_of_error _ _ _ step error applied
          simp [bind, Except.bind, refused]
      | ok next =>
          obtain ⟨acceptable, rfl⟩ := (step next).mp applied
          simp [bind, Except.bind, acceptable, ih]

theorem get?_assign (values : Assignments) (setting : Setting) (key : String)
    (known : key ∈ knownKeys) :
    (assign values setting).get? key =
      if setting.key = key then setting.value.scalarText? else values.get? key := by
  unfold assign
  by_cases same : setting.key = key
  · subst same
    rw [if_pos (isOwn_of_known setting.key known), if_pos rfl]
    cases setting.value.scalarText? with
    | some text => exact Assignments.get?_set_same values setting.key text
    | none => exact Assignments.get?_unset_same values setting.key
  · rw [if_neg same]
    split
    · cases setting.value.scalarText? with
      | some text => exact Assignments.get?_set_ne values setting.key text key (Ne.symm same)
      | none => exact Assignments.get?_unset_ne values setting.key key (Ne.symm same)
    · rfl

/-- An acceptable setting only touches a known key. -/
theorem get?_assign_unknown (values : Assignments) (setting : Setting)
    (acceptable : Acceptable setting) (key : String) (unknown : key ∉ knownKeys) :
    (assign values setting).get? key = values.get? key := by
  unfold assign
  split
  · next own =>
      have differs : key ≠ setting.key := ne_of_mem_of_not_mem (acceptable own).1 unknown |>.symm
      cases setting.value.scalarText? with
      | some text => exact Assignments.get?_set_ne values setting.key text key differs
      | none => exact Assignments.get?_unset_ne values setting.key key differs
  · rfl

theorem lastValue?_concat (key : String) (settings : List Setting) (setting : Setting) :
    lastValue? key (settings ++ [setting]) =
      if setting.key = key then some setting.value else lastValue? key settings := by
  unfold lastValue?
  by_cases same : setting.key = key <;> simp [same]

/-- The last setting of a known key decides, and without one the key keeps its value. -/
theorem get?_foldl_assign (values : Assignments) (settings : List Setting) (key : String)
    (known : key ∈ knownKeys) :
    (settings.foldl assign values).get? key =
      match lastValue? key settings with
      | some value => value.scalarText?
      | none => values.get? key := by
  -- From the end: the last setting decides if it has the key, and else those before it.
  induction settings using List.reverseRecOn with
  | nil => rfl
  | append_singleton before setting ih =>
      rw [List.foldl_append, List.foldl_cons, List.foldl_nil, get?_assign _ _ _ known,
        lastValue?_concat]
      by_cases same : setting.key = key
      · rw [if_pos same, if_pos same]
      · rw [if_neg same, if_neg same, ih]

theorem get?_foldl_assign_unknown (values : Assignments) (settings : List Setting)
    (acceptable : ∀ setting ∈ settings, Acceptable setting) (key : String)
    (unknown : key ∉ knownKeys) : (settings.foldl assign values).get? key = values.get? key := by
  induction settings generalizing values with
  | nil => rfl
  | cons setting rest ih =>
      rw [List.forall_mem_cons] at acceptable
      rw [List.foldl_cons, ih _ acceptable.2,
        get?_assign_unknown values setting acceptable.1 key unknown]

theorem acceptable_lastValue? (key : String) (settings : List Setting) (value : Value)
    (acceptable : ∀ setting ∈ settings, Acceptable setting) (known : key ∈ knownKeys)
    (last : lastValue? key settings = some value) :
    value.scalarText?.isSome ∨ isNull value = true := by
  obtain ⟨setting, found, rfl⟩ := Option.map_eq_some_iff.mp last
  obtain ⟨member, same⟩ := List.mem_filter.mp (List.mem_of_getLast? found)
  have own := isOwn_of_known key known
  rw [← of_decide_eq_true same] at own
  exact (acceptable setting member own).2

/-! Files -/

end HttpBinding.Config
