import HttpBinding.Proofs.Config.DocumentOrder
import HttpBinding.Proofs.Config.Merging

/-!
Every outcome of merging a document, by its settings in document order. It is refused for the
first of them that is not acceptable: for its key, if that is unknown, and else for its value.
Where all settings are acceptable, the last one of a key decides, and the values of other keys
stay as they are.
-/
namespace HttpBinding.Config

open Yaml (Value)

/-- Why a setting is refused. A tag does not count in front of a null. -/
inductive Refused (origin : String) (setting : Setting) : Error → Prop
  | unknownKey (own : isOwn setting.key = true) (unknown : setting.key ∉ knownKeys) :
      Refused origin setting (.unknownKey setting.key origin)
  | list (items : List Value) (known : setting.key ∈ knownKeys)
      (found : setting.value = .list items) :
      Refused origin setting (.invalidValue setting.key (.notText "a list" origin))
  | tagged (tag : String) (value : Value) (known : setting.key ∈ knownKeys)
      (found : setting.value = .tagged tag value) (filled : isNull value = false) :
      Refused origin setting (.invalidValue setting.key (.notText "a tagged value" origin))

/-- What a key has after the settings: the text of the last one for it, nothing if that is a
null, and what it had before if there is none. -/
structure Settled (before : Assignments) (settings : List Setting) (after : Assignments) :
    Prop where
  decided : ∀ key ∈ knownKeys, ∀ leaf, lastValue? key settings = some leaf →
    (∃ text, leaf.scalarText? = some text ∧ after.get? key = some text) ∨
      (isNull leaf = true ∧ after.get? key = none)
  kept : ∀ key, key ∉ knownKeys ∨ lastValue? key settings = none →
    after.get? key = before.get? key

theorem scalarText?_of_isNull (value : Value) (null : isNull value = true) :
    value.scalarText? = none := by
  cases value with
  | null | tagged => rfl
  | _ => cases null

theorem apply_unknown_error_iff (origin : String) (values : Assignments) (setting : Setting)
    (unknown : setting.key ∉ knownKeys) (error : Error) :
    setting.apply origin values = .error error ↔
      isOwn setting.key = true ∧ error = .unknownKey setting.key origin := by
  cases own : isOwn setting.key <;> simp [Setting.apply, own, unknown, eq_comm]

theorem apply_known_error_iff (origin : String) (values : Assignments) (setting : Setting)
    (known : setting.key ∈ knownKeys) (error : Error) :
    setting.apply origin values = .error error ↔
      setting.value.scalarText? = none ∧ isNull setting.value = false ∧
        error = .invalidValue setting.key (.notText (kind setting.value) origin) := by
  have own := isOwn_of_known setting.key known
  cases text : setting.value.scalarText? with
  | some text => simp [Setting.apply, own, known, text]
  | none => cases null : isNull setting.value <;> simp [Setting.apply, own, known, text, null, eq_comm]

theorem apply_error_iff (origin : String) (values : Assignments) (setting : Setting)
    (leaf : isMapping setting.value = false) (error : Error) :
    setting.apply origin values = .error error ↔ Refused origin setting error := by
  by_cases known : setting.key ∈ knownKeys
  · rw [apply_known_error_iff origin values setting known]
    constructor
    · rintro ⟨text, null, rfl⟩
      cases found : setting.value with
      | list items => exact .list items known found
      | tagged tag value =>
          rw [found] at null
          exact .tagged tag value known found null
      | mapping entries => simp [found, isMapping] at leaf
      | null => simp [found, isNull] at null
      | flag | number | text => simp [found, Value.scalarText?] at text
    · intro refused
      cases refused with
      | unknownKey own unknown => exact absurd known unknown
      | list items _ found => simp [found, Value.scalarText?, isNull, kind]
      | tagged tag value _ found filled => simp [found, Value.scalarText?, isNull, filled, kind]
  · rw [apply_unknown_error_iff origin values setting known]
    constructor
    · rintro ⟨own, rfl⟩
      exact .unknownKey own known
    · intro refused
      cases refused with
      | unknownKey own _ => exact ⟨own, rfl⟩
      | list items other => exact absurd other known
      | tagged tag value other => exact absurd other known

theorem foldlM_apply_error_iff (origin : String) (values : Assignments) (settings : List Setting)
    (leaves : ∀ setting ∈ settings, isMapping setting.value = false) (error : Error) :
    settings.foldlM (Setting.apply origin) values = .error error ↔
      FirstFault Acceptable (fun _ setting => Refused origin setting error) settings := by
  induction settings generalizing values with
  | nil => simp [not_firstFault_nil, pure, Except.pure]
  | cons setting rest ih =>
      rw [List.forall_mem_cons] at leaves
      have refused := apply_error_iff origin values setting leaves.1 error
      have step (next : Assignments) := apply_ok_iff origin values next setting
      rw [List.foldlM_cons, firstFault_cons, ← refused]
      cases applied : setting.apply origin values with
      | error first =>
          have unacceptable := not_of_error _ _ _ step first applied
          simp [bind, Except.bind, unacceptable]
      | ok next =>
          have acceptable := ((step next).mp applied).1
          simp [bind, Except.bind, acceptable, ih next leaves.2]

theorem settled_foldl_assign (before : Assignments) (settings : List Setting)
    (acceptable : ∀ setting ∈ settings, Acceptable setting) :
    Settled before settings (settings.foldl assign before) := by
  constructor
  · intro key known leaf last
    have decides := get?_foldl_assign before settings key known
    rw [last] at decides
    rcases acceptable_lastValue? key settings leaf acceptable known last with scalar | null
    · obtain ⟨text, found⟩ := Option.isSome_iff_exists.mp scalar
      exact .inl ⟨text, found, decides.trans found⟩
    · exact .inr ⟨null, decides.trans (scalarText?_of_isNull leaf null)⟩
  · intro key
    by_cases known : key ∈ knownKeys
    · rintro (unknown | untouched)
      · exact absurd known unknown
      · rw [get?_foldl_assign before settings key known, untouched]
    · intro _
      exact get?_foldl_assign_unknown before settings acceptable key known

theorem settings_leaves (document : Value) :
    ∀ setting ∈ settings document, isMapping setting.value = false := by
  intro setting member
  exact ((mem_settingsBelow_iff "" document setting).mp member).2.2

theorem mergeValue_outcome (origin : String) (values : Assignments) (document : Value) :
    (∀ leaves, InDocumentOrder (LeafAt "" document) leaves ↔ leaves = settings document) ∧
    ((∃ after, mergeValue origin values document = .ok after) ↔
      ∀ setting ∈ settings document, Acceptable setting) ∧
    (∀ after, mergeValue origin values document = .ok after →
      Settled values (settings document) after) ∧
    ∀ error, mergeValue origin values document = .error error ↔
      FirstFault Acceptable (fun _ setting => Refused origin setting error)
        (settings document) := by
  have accepted (after : Assignments) :=
    foldlM_apply_ok_iff origin values after (settings document)
  refine ⟨settings_inDocumentOrder_iff document, ?_, ?_,
    foldlM_apply_error_iff origin values _ (settings_leaves document)⟩
  · constructor
    · rintro ⟨after, merged⟩
      exact ((accepted after).mp merged).1
    · intro acceptable
      exact ⟨_, (accepted _).mpr ⟨acceptable, rfl⟩⟩
  · intro after merged
    obtain ⟨acceptable, rfl⟩ := (accepted after).mp merged
    exact settled_foldl_assign values _ acceptable

/-- The separator is set as a nested key and then taken away under its dotted name. -/
def turnedDocument : Value :=
  .mapping [(.text "server", .list []),
    (.text "strut", .mapping [(.text "bindings", .mapping [(.text "separator", .number (.whole 7))]),
      (.text "helpers.source", .flag true)]),
    (.text "strut.bindings.separator", .null)]

/-- A misspelled key in front of a list. -/
def faultyDocument : Value :=
  .mapping [(.text "strut", .mapping [(.text "bindings", .mapping [(.text "seperator", .text "|")]),
    (.text "helpers", .mapping [(.text "source", .list [.text "a.rs"])])])]

theorem turnedDocument_and_faultyDocument_outcome :
    mergeValue "strut.yaml" ⟨[(separator, ";"), ("port", "1")]⟩ turnedDocument
      = .ok ⟨[("port", "1"), (helperSource, "true")]⟩ ∧
    Settled ⟨[(separator, ";"), ("port", "1")]⟩ (settings turnedDocument)
      ⟨[("port", "1"), (helperSource, "true")]⟩ ∧
    FirstFault Acceptable (fun _ setting => Refused "strut.yaml" setting
      (.unknownKey "strut.bindings.seperator" "strut.yaml")) (settings faultyDocument) := by
  have turned : mergeValue "strut.yaml" ⟨[(separator, ";"), ("port", "1")]⟩ turnedDocument
      = .ok ⟨[("port", "1"), (helperSource, "true")]⟩ := by decide +kernel
  have faulty : mergeValue "strut.yaml" .empty faultyDocument
      = .error (.unknownKey "strut.bindings.seperator" "strut.yaml") := by decide +kernel
  exact ⟨turned, (mergeValue_outcome _ _ turnedDocument).2.2.1 _ turned,
    ((mergeValue_outcome _ _ faultyDocument).2.2.2 _).mp faulty⟩

def taggedSource (value : Value) : Value := .mapping [(.text helperSource, .tagged "later" value)]

/-- A tagged value is refused, but a tagged null takes the value of its key away. -/
theorem taggedNull_unsets_source :
    settings (taggedSource .null) = [⟨helperSource, .tagged "later" .null⟩] ∧
    kind (.tagged "later" .null) = "a tagged value" ∧
    mergeValue "strut.yaml" ⟨[(helperSource, "own.rs")]⟩ (taggedSource .null) = .ok .empty ∧
    mergeValue "strut.yaml" ⟨[(helperSource, "own.rs")]⟩ (taggedSource (.text "late.rs"))
      = .error (.invalidValue helperSource (.notText "a tagged value" "strut.yaml")) := by
  refine ⟨rfl, rfl, ?_, ?_⟩ <;> decide +kernel

end HttpBinding.Config
